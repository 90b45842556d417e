import CommitLanes.Repository.Basic
import CommitLanes.Repository.Name
import CommitLanes.Repository.Packed

/-! References: names for objects, each in a file of its own or all packed in one file.

A file of its own counts before the packed one. A broken file hides the packed reference
from those who look the name up, but not from a listing.
-/

set_option autoImplicit false

namespace CommitLanes.Repository

inductive Reference where
  | direct (target : ObjectId)
  | symbolic (name : Bytes)
  deriving DecidableEq, Repr

namespace Reference

/-- What a file of its own says. Behind an id anything may follow a space. -/
def ofFile? (content : Bytes) : Option Reference :=
  match Bytes.after? (Bytes.ofString "ref: ") content with
  | some _ =>
      let line := (content.reverse.dropWhile Bytes.isSpace).reverse
      if line.length < 6 then none else some (.symbolic (Bytes.untilZero (line.drop 5)))
  | none =>
      match ObjectId.ofHex .sha1 (content.take HashFunction.sha1.hexLength) with
      | .error _ => none
      | .ok id =>
          match content.drop HashFunction.sha1.hexLength with
          | [] => some (.direct id)
          | b :: _ => if b == 0 || Bytes.isSpace b then some (.direct id) else none

end Reference

/-- What is done in a repository that stays open. Damage of the packed file is told once, to
the first who needs all of it; whoever comes later finds no packed references. What is carried
along is whether the damage was told. -/
abbrev Visit := StateM Bool

def Visit.first {Result : Type} (visit : Visit Result) : Result :=
  (visit.run false).1

def packedName : Bytes :=
  Bytes.ofString "packed-refs"

def packed (repository : Repository) : OptionT Visit (List (Bytes × ObjectId)) := do
  let entries? := match repository.files.read repository.home packedName with
    | .ok content => Packed.read? content
    | .error .isDirectory => none
    | .error _ => some []
  match entries? with
  | some entries => return entries
  | none =>
      let wasTold ← modifyGet fun told => (told, true)
      if wasTold then return [] else failure

def packedId (repository : Repository) (name : Bytes) : OptionT Visit ObjectId :=
  match repository.files.read repository.home packedName with
  | .ok content =>
      if Packed.isSorted content then (Packed.search? content name).getM
      else do ((← repository.packed).lookup name).getM
  | .error _ => failure

def fileOf? (repository : Repository) (name : Bytes) : Option Bytes :=
  (repository.files.read repository.home (name.dropWhile Path.isSlash)).toOption

def lookup (repository : Repository) (name : Bytes) : OptionT Visit Reference :=
  match repository.fileOf? name with
  | some content => (Reference.ofFile? content).getM
  | none => do return .direct (← repository.packedId name)

def deepest : Nat :=
  5

def follow (repository : Repository) : Nat → Reference → OptionT Visit ObjectId
  | _, .direct id => return id
  | 0, .symbolic _ => failure
  | depth + 1, .symbolic name => do repository.follow depth (← repository.lookup name)

def resolve (repository : Repository) (name : Bytes) : OptionT Visit ObjectId := do
  let name ← (Name.normalize? name).getM
  repository.follow deepest (← repository.lookup name)

def headName : Bytes :=
  Bytes.ofString "HEAD"

/-- What the head stands for, unless it leads nowhere yet. -/
def head (repository : Repository) : OptionT Visit ObjectId := do
  match ← repository.lookup headName with
  | .direct id => return id
  | .symbolic name => repository.resolve name

/-- The references with files of their own, by name. Locks are none, and broken files are
passed over. -/
def loose (repository : Repository) : List (Bytes × Reference) :=
  let files := repository.files.below (repository.home ++ [Bytes.ofString "refs"])
  Ordered.sort (fun a b => compare a.1 b.1) (files.filterMap fun (path, content) =>
    let name := Path.joined (Bytes.ofString "refs" :: path)
    if Bytes.endsWith name Name.lockSuffix then none
    else (Reference.ofFile? content).map fun reference => (name, reference))

def references (repository : Repository) : OptionT Visit (List (Bytes × Reference)) := do
  let loose := repository.loose
  let others := (← repository.packed).filter fun (name, _) =>
    !loose.any fun entry => entry.1 = name
  return loose ++ others.map fun (name, id) => (name, .direct id)

/-- The references in one directory that stand for an object themselves. Their names are
given without the directory. -/
def directIn (references : List (Bytes × Reference)) (directory : String) :
    List (Bytes × ObjectId) :=
  references.filterMap fun (name, reference) =>
    match Bytes.after? (Bytes.ofString directory) name, reference with
    | some rest, .direct id => some (rest, id)
    | _, _ => none

def branchDirectory : String :=
  "refs/heads/"

def remoteDirectory : String :=
  "refs/remotes/"

def tagDirectory : String :=
  "refs/tags/"

end CommitLanes.Repository
