import CommitLanes.Text

/-! The files and directories of a machine, as they stand at one moment.

Names are byte strings. A directory is there if it was named itself or if anything lies
below it.
-/

set_option autoImplicit false

namespace CommitLanes

abbrev Path := List Bytes

structure FileTree where
  files : List (Path × Bytes)
  directories : List Path

inductive FileTree.Fault where
  | missing
  | notDirectory
  | isDirectory
  deriving DecidableEq, Repr

def FileTree.Fault.message : FileTree.Fault → String
  | .missing => "No such file or directory (os error 2)"
  | .notDirectory => "Not a directory (os error 20)"
  | .isDirectory => "Is a directory (os error 21)"

namespace Path

def isSlash (b : UInt8) : Bool :=
  b == 0x2F

/-- Where a relative name leads from a directory. Going up from the top stays there. -/
def resolve (base : Path) (name : Bytes) : Path :=
  (Pieces.runs isSlash name).foldl (fun path step =>
    if step = Bytes.ofString "." then path
    else if step = Bytes.ofString ".." then path.dropLast
    else path ++ [step]) base

def isAbsolute (name : Bytes) : Bool :=
  Bytes.startsWith name (Bytes.ofString "/")

def joined : Path → Bytes
  | [] => []
  | [only] => only
  | first :: rest => first ++ Bytes.ofString "/" ++ joined rest

end Path

namespace FileTree

/-- A name that ends in a slash is a directory and has no content. -/
def ofEntries (entries : List (Text × Bytes)) : FileTree :=
  let isDirectory (name : Text) : Bool := name.getLast? = some '/'
  let path (name : Text) : Path := Path.resolve [] name.utf8
  { files := (entries.filter fun entry => !isDirectory entry.1).map fun entry =>
      (path entry.1, entry.2)
    directories := (entries.filter fun entry => isDirectory entry.1).map fun entry =>
      path entry.1 }

def file? (tree : FileTree) (path : Path) : Option Bytes :=
  (tree.files.find? fun entry => entry.1 = path).map (·.2)

def isFile (tree : FileTree) (path : Path) : Bool :=
  (tree.file? path).isSome

def isDirectory (tree : FileTree) (path : Path) : Bool :=
  path.isEmpty || tree.directories.any (fun named => path.isPrefixOf named) ||
    tree.files.any (fun entry => entry.1 ≠ path && path.isPrefixOf entry.1)

def below (tree : FileTree) (path : Path) : List (Path × Bytes) :=
  (tree.files.filter fun entry => entry.1 ≠ path && path.isPrefixOf entry.1).map fun entry =>
    (entry.1.drop path.length, entry.2)

def has (tree : FileTree) (path : Path) : Bool :=
  tree.isFile path || tree.isDirectory path

def step (tree : FileTree) (place : Path) (name : Bytes) : Except Fault Path :=
  if !tree.isDirectory place then .error .notDirectory
  else if name.isEmpty || name = Bytes.ofString "." then .ok place
  else if name = Bytes.ofString ".." then .ok place.dropLast
  else if tree.has (place ++ [name]) then .ok (place ++ [name])
  else .error .missing

/-- The file or directory that a name leads to, from the top or from a given directory.
Every step on the way must be there, also one that is taken back. -/
def find (tree : FileTree) (base : Path) (name : Bytes) : Except Fault Path :=
  (Pieces.split Path.isSlash name).foldlM tree.step (if Path.isAbsolute name then [] else base)

def read (tree : FileTree) (base : Path) (name : Bytes) : Except Fault Bytes := do
  match tree.file? (← tree.find base name) with
  | some content => return content
  | none => throw .isDirectory

end FileTree

end CommitLanes
