import CommitLanes.FileTree
import CommitLanes.Repository.Object

/-! A repository within a tree of files, and how it is found there. -/

set_option autoImplicit false

namespace CommitLanes

structure Repository where
  files : FileTree
  path : Text
  /-- The directory that holds the head, the objects and the refs. -/
  home : Path

namespace Repository

inductive Fault where
  | notFound (path : Text)
  | unloadable (id : ObjectId)
  | damaged
  deriving DecidableEq, Repr

def Fault.message : Fault → String
  | .notFound path => "Failed to open repository at " ++ String.ofList path
  | .unloadable id => "Failed to load commit " ++ String.ofList id.hex
  | .damaged => "damaged repository"

def isHome (files : FileTree) (path : Path) : Bool :=
  files.isFile (path ++ [Bytes.ofString "HEAD"]) &&
    files.isDirectory (path ++ [Bytes.ofString "objects"]) &&
    files.isDirectory (path ++ [Bytes.ofString "refs"])

/-- The directory that is named by a file which stands where a home is expected. A name that
ends at once leads to where the file is. -/
def linkName? (content : Bytes) : Option Bytes := do
  let line := (content.reverse.dropWhile Bytes.isSpace).reverse
  let name ← Bytes.after? (Bytes.ofString "gitdir:") line
  if name.isEmpty then none else some ((Bytes.untilZero name).dropWhile Bytes.isSpace)

def link? (files : FileTree) (path : Path) (content : Bytes) : Option Path := do
  let target ← (files.find path.dropLast (← linkName? content)).toOption
  if files.isDirectory target then some target else none

inductive Place where
  | home (path : Path)
  | other
  | broken

def homeName : Bytes :=
  Bytes.ofString ".git"

def placeAt (files : FileTree) (path : Path) : Place :=
  match files.file? path with
  | some content =>
      -- Only under this name is a file taken for a link.
      if path.getLast? ≠ some homeName then .other
      else match (link? files path content).filter (isHome files) with
        | some target => .home target
        | none => .broken
  | none => if files.isDirectory path && isHome files path then .home path else .other

/-- The home below a directory, or the directory itself. Directories further up are not
searched. -/
def findHome? (files : FileTree) (path : Path) : Option Path :=
  match placeAt files (path ++ [homeName]) with
  | .home home => some home
  | .broken => none
  | .other =>
      match placeAt files path with
      | .home home => some home
      | _ => none

def openAt (files : FileTree) (directory : Path) (path : Text) : Except Fault Repository :=
  match (files.find directory path.utf8).toOption.bind (findHome? files) with
  | some home => .ok ⟨files, path, home⟩
  | none => .error (.notFound path)

def objectPath (repository : Repository) (id : ObjectId) : Path :=
  repository.home ++
    [Bytes.ofString "objects", Text.utf8 (id.hex.take 2), Text.utf8 (id.hex.drop 2)]

def object? (repository : Repository) (id : ObjectId) : Option Object :=
  (repository.files.file? (repository.objectPath id)).bind (Object.ofFile? id)

end Repository

end CommitLanes
