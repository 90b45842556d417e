import CommitLanes.Ref

/-! A commit as it is laid out and shown: its ids, who wrote it and when, and its message
taken apart into subject and body. -/

set_option autoImplicit false

namespace CommitLanes

structure Commit where
  id : ObjectId
  tree : ObjectId
  parents : List ObjectId
  author : Text
  authorEmail : Text
  authorDate : Int64
  committer : Text
  committerEmail : Text
  commitDate : Int64
  /-- The label the record declared, known or not. -/
  encoding : Option Text
  subject : Text
  body : Option Text
  refs : List Ref
  deriving DecidableEq

namespace Commit

def isRoot (commit : Commit) : Bool :=
  commit.parents.isEmpty

def isMerge (commit : Commit) : Bool :=
  1 < commit.parents.length

def isArtificial (commit : Commit) : Bool :=
  commit.id.isArtificial

def withRefs (commit : Commit) (refs : List Ref) : Commit :=
  { commit with refs }

def placeholder (id parent : ObjectId) (subject : Text) : Commit where
  id := id
  tree := id
  parents := [parent]
  author := []
  authorEmail := []
  authorDate := 0
  committer := []
  committerEmail := []
  commitDate := 0
  encoding := none
  subject := subject
  body := none
  refs := []

/-- Changes that are not staged; they come on top of the staged ones. -/
def workingTree : Commit :=
  placeholder .workingTree .index "Working directory changes".toList

def index (head : ObjectId) : Commit :=
  placeholder .index head "Commit index".toList

end Commit

end CommitLanes
