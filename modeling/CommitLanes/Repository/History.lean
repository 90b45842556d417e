import CommitLanes.Log.Entry
import CommitLanes.Log.Source
import CommitLanes.Repository.Walk

/-! The history of a repository as a log, and reading the log piece by piece. -/

set_option autoImplicit false

namespace CommitLanes.Repository

/-- The entries of a log, and what ended it too early, if anything did. -/
structure History where
  entries : List Log.Entry
  fault : Option Fault

def entryOf (id : ObjectId) (commit : StoredCommit) : Log.Entry where
  id
  tree := commit.tree
  parents := commit.parents
  author := commit.author.name
  authorEmail := commit.author.email
  authorDate := commit.author.seconds
  committer := commit.committer.name
  committerEmail := commit.committer.email
  commitDate := commit.committer.seconds
  encoding := commit.encoding
  message := commit.message

def entryAt? (repository : Repository) (id : ObjectId) : Option Log.Entry :=
  ((repository.commitContent? id).bind StoredCommit.ofContent?).map (entryOf id)

namespace History

def ofWalk (read? : ObjectId → Option Log.Entry) : List ObjectId → History
  | [] => ⟨[], none⟩
  | id :: rest =>
      match read? id with
      | none => ⟨[], some (.unloadable id)⟩
      | some entry =>
          let others := ofWalk read? rest
          { others with entries := entry :: others.entries }

def records (history : History) : List Bytes :=
  history.entries.map Log.Entry.encode

def toExcept (history : History) : Except Fault Bytes :=
  match history.fault with
  | some fault => .error fault
  | none => .ok history.records.flatten

/-- The log as a source. A fault comes behind all records. -/
def source (history : History) : Log.Source :=
  ⟨[], history.records.map .data ++
    (history.fault.map fun fault => Log.Arrival.failure fault.message).toList⟩

structure Reader where
  begun : Bytes
  records : List Bytes
  fault : Option Fault

/-- What one reading gives; no bytes mean that the log is over. -/
inductive Reading where
  | bytes (bytes : Bytes)
  | failed (fault : Fault)
  deriving DecidableEq, Repr

namespace Reader

def start (history : History) : Reader :=
  ⟨[], history.records, history.fault⟩

def readFrom (size : Nat) (begun : Bytes) (fault : Option Fault) :
    List Bytes → Reading × Reader
  | [] =>
      if begun.isEmpty then
        match fault with
        | some fault => (.failed fault, ⟨[], [], none⟩)
        | none => (.bytes [], ⟨[], [], none⟩)
      else (.bytes (begun.take size), ⟨begun.drop size, [], fault⟩)
  | record :: rest =>
      if begun.isEmpty then readFrom size record fault rest
      else (.bytes (begun.take size), ⟨begun.drop size, record :: rest, fault⟩)

/-- At most `size` bytes of one record. A fault is told once, after all records. -/
def read (size : Nat) (reader : Reader) : Reading × Reader :=
  readFrom size reader.begun reader.fault reader.records

def bound (reader : Reader) : Nat :=
  reader.begun.length + reader.records.flatten.length + 2

/-- Reads until nothing comes, a reading fails, or `limit` bytes have come. Gives the bytes
and the fault. -/
def drain (size : Nat) (limit : Option Nat) (reader : Reader) : Bytes × Option Fault × Reader :=
  go reader.bound limit reader
where
  go : Nat → Option Nat → Reader → Bytes × Option Fault × Reader
    | 0, _, reader => ([], none, reader)
    | fuel + 1, limit, reader =>
        if limit = some 0 then ([], none, reader)
        else match reader.read ((limit.map fun n => min n size).getD size) with
          | (.failed fault, reader) => ([], some fault, reader)
          | (.bytes bytes, reader) =>
              if bytes.isEmpty then ([], none, reader)
              else
                let (others, fault, reader) := go fuel (limit.map (· - bytes.length)) reader
                (bytes ++ others, fault, reader)

end Reader

end History

/-- The history behind some commits, of at most `limit` commits. With a limit of zero the
history is not walked at all. -/
def historyFrom (repository : Repository) (limit : Option Nat) (tips : List ObjectId) : History :=
  if limit = some 0 then ⟨[], none⟩
  else match Walk.from? repository tips with
    | none => ⟨[], some .damaged⟩
    | some ids => .ofWalk repository.entryAt? (ids.take (limit.getD ids.length))

def history (repository : Repository) (limit : Option Nat) : Visit History := do
  match ← repository.tips.run with
  | none => return ⟨[], some .damaged⟩
  | some tips => return repository.historyFrom limit tips

end CommitLanes.Repository
