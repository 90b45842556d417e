import CommitLanes.Commit
import CommitLanes.Commit.Message
import CommitLanes.Log.Record
import CommitLanes.Pool
import CommitLanes.Text.Encoding

/-! Commits from raw records.

A decoder keeps a pool, so that the names of a log are stored once. The pool is touched
only after everything that can be wrong with a record has been looked at.
-/

set_option autoImplicit false

namespace CommitLanes.Log

structure Decoder where
  hash : HashFunction
  /-- For records that declare no encoding, or one that is unknown. -/
  encoding : Encoding
  pool : Pool

namespace Decoder

def encodingFor (decoder : Decoder) (label : Option Text) : Encoding :=
  (label.bind fun label => Encoding.ofLabel? label.utf8).getD decoder.encoding

/-- A name or address; a carriage return before the newline is no part of it. -/
def readName (encoding : Encoding) (raw : Bytes) : Text :=
  Text.dropEnd '\r' (encoding.decode raw)

def commitOf (decoder : Decoder) (record : Record) : Commit :=
  let encoding := decoder.encodingFor record.label
  let (subject, body) := Message.split (encoding.decode record.message)
  { id := record.id
    tree := record.tree
    parents := record.parents
    author := readName encoding record.author
    authorEmail := readName encoding record.authorEmail
    authorDate := record.authorDate
    committer := readName encoding record.committer
    committerEmail := readName encoding record.committerEmail
    commitDate := record.commitDate
    encoding := record.label
    subject
    body
    refs := [] }

def pooled (commit : Commit) : List Text :=
  [commit.author, commit.authorEmail, commit.committer, commit.committerEmail] ++
    commit.encoding.toList

def share (pool : Pool) (commit : Commit) : Commit × Pool :=
  let author := pool.intern commit.author
  let authorEmail := author.2.intern commit.authorEmail
  let committer := authorEmail.2.intern commit.committer
  let committerEmail := committer.2.intern commit.committerEmail
  let label := committerEmail.2.internAll commit.encoding.toList
  ({ commit with
      author := author.1.text
      authorEmail := authorEmail.1.text
      committer := committer.1.text
      committerEmail := committerEmail.1.text
      encoding := label.1.head?.map (·.text) },
    label.2)

/-- Decodes the record with the number `record`, which serves for the report only. -/
def decode (decoder : Decoder) (raw : Bytes) (record : Nat) : Except Fault Commit × Decoder :=
  match Record.ofBytes decoder.hash raw with
  | .error reason => (.error (.malformed record reason), decoder)
  | .ok parts =>
      let shared := share decoder.pool (decoder.commitOf parts)
      (.ok shared.1, { decoder with pool := shared.2 })

/-- What the pool hands out reads as what was given to it. -/
theorem share_eq (pool : Pool) (commit : Commit) :
    share pool commit = (commit, (pool.internAll (pooled commit)).2) := by
  rcases commit with ⟨_, _, _, _, _, _, _, _, _, none | label, _, _, _⟩ <;>
    simp [share, pooled, Pool.internAll]

theorem decode_of_error {decoder : Decoder} {raw : Bytes} {reason : Reason}
    (refused : Record.ofBytes decoder.hash raw = .error reason) (record : Nat) :
    decoder.decode raw record = (.error (.malformed record reason), decoder) := by
  rw [decode, refused]

theorem decode_of_ok {decoder : Decoder} {raw : Bytes} {parts : Record}
    (read : Record.ofBytes decoder.hash raw = .ok parts) (record : Nat) :
    decoder.decode raw record =
      (.ok (decoder.commitOf parts),
        { decoder with pool := (decoder.pool.internAll (pooled (decoder.commitOf parts))).2 }) := by
  rw [decode, read]
  simp only [share_eq]

end Decoder

end CommitLanes.Log
