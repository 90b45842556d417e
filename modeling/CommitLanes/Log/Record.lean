import CommitLanes.Decimal
import CommitLanes.Log.Fault
import CommitLanes.Pieces
import CommitLanes.Text.Blank
import CommitLanes.Text.Utf8

/-! The parts of a raw record, before any name or message is decoded.

The header may run its first two ids together and may use any blanks between them; the
fields behind it are lines. The record need not be closed by a newline.
-/

set_option autoImplicit false

namespace CommitLanes.Log

structure Record where
  id : ObjectId
  tree : ObjectId
  parents : List ObjectId
  author : Bytes
  authorEmail : Bytes
  authorDate : Int64
  committer : Bytes
  committerEmail : Bytes
  commitDate : Int64
  label : Option Text
  message : Bytes
  deriving DecidableEq

namespace Record

def idOf (hash : HashFunction) (fault : ObjectId.Fault → Reason) (hex : Bytes) :
    Except Reason ObjectId :=
  (ObjectId.ofHex hash hex).mapError fault

/-- Commit, tree and parents. The first two ids are cut by their width, so that a short
one is reported with the length it has. -/
def readHeader (hash : HashFunction) (header : Bytes) :
    Except Reason (ObjectId × ObjectId × List ObjectId) := do
  let (first, rest) := header.splitAt hash.hexLength
  let id ← idOf hash .commitId first
  let (second, rest) := (Bytes.trimStart rest).splitAt hash.hexLength
  let tree ← idOf hash .treeId second
  let parents ← (Bytes.words rest).mapM (idOf hash .parentId)
  return (id, tree, parents)

def readDate (field : Field) (raw : Bytes) : Except Reason Int64 :=
  match (Utf8.decode? raw).bind fun text => Decimal.int64? text.trim with
  | some seconds => .ok seconds
  | none => .error (.timestamp field)

def readLabel (raw : Bytes) : Option Text :=
  ((Utf8.decode? raw).map Text.trim).filter fun label => !label.isEmpty

def firstMissing (count : Nat) : Field :=
  Field.all.getD count .encoding

def ofBytes (hash : HashFunction) (raw : Bytes) : Except Reason Record := do
  let (header, rest) ←
    match Pieces.cut Bytes.isNewline raw with
    | some parts => pure parts
    | none => throw .unterminatedHeader
  let (id, tree, parents) ← readHeader hash header
  -- The message may hold newlines, so nothing is cut off behind the last field.
  let pieces := Pieces.splitUpTo Bytes.isNewline (Field.all.length + 1) rest
  match pieces with
  | author :: authorEmail :: authorDate :: committer :: committerEmail :: commitDate ::
      encoding :: message =>
      let authorDate ← readDate .authorDate authorDate
      let commitDate ← readDate .commitDate commitDate
      return {
        id, tree, parents, author, authorEmail, authorDate, committer, committerEmail, commitDate
        label := readLabel encoding
        message := message.headD [] }
  | _ => throw (.missingField (firstMissing pieces.length))

end Record

end CommitLanes.Log
