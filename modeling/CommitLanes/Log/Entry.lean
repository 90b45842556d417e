import CommitLanes.Decimal
import CommitLanes.ObjectId

/-! The written form of a commit in a log.

An entry is a line of ids, seven lines of fields and the message, closed by a zero byte.
Names and message are bytes in whatever encoding the entry declares.
-/

set_option autoImplicit false

namespace CommitLanes.Log

def separator : UInt8 := 0

structure Entry where
  id : ObjectId
  tree : ObjectId
  parents : List ObjectId
  author : Bytes
  authorEmail : Bytes
  authorDate : Int64
  committer : Bytes
  committerEmail : Bytes
  commitDate : Int64
  encoding : Option Text
  message : Bytes

namespace Entry

def header (entry : Entry) : Bytes :=
  (Text.joined [' '] ((entry.id :: entry.tree :: entry.parents).map ObjectId.hex)).utf8

def date (seconds : Int64) : Bytes :=
  (Decimal.ofInt seconds.toInt).utf8

def lines (entry : Entry) : List Bytes :=
  [entry.header, entry.author, entry.authorEmail, date entry.authorDate, entry.committer,
    entry.committerEmail, date entry.commitDate, (entry.encoding.getD []).utf8]

def encode (entry : Entry) : Bytes :=
  (entry.lines.flatMap fun line => line ++ [Bytes.newline]) ++ entry.message ++ [separator]

end Entry

end CommitLanes.Log
