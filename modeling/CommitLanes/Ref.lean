import CommitLanes.ObjectId

/-! Names that point at commits. -/

set_option autoImplicit false

namespace CommitLanes

/-- The order of the constructors is the order in which refs are shown. -/
inductive Ref.Kind where
  | head
  | branch
  | remote
  | tag
  deriving DecidableEq, Repr

structure Ref where
  name : Text
  target : ObjectId
  kind : Ref.Kind
  deriving DecidableEq, Repr

namespace Ref

def Kind.rank : Kind → Nat
  | head => 0
  | branch => 1
  | remote => 2
  | tag => 3

def Kind.word : Kind → String
  | head => "head"
  | branch => "branch"
  | remote => "remote"
  | tag => "tag"

def isHead (ref : Ref) : Bool :=
  ref.kind = .head

def isRemote (ref : Ref) : Bool :=
  ref.kind = .remote

def isTag (ref : Ref) : Bool :=
  ref.kind = .tag

def order (a b : Ref) : Ordering :=
  (compare a.kind.rank b.kind.rank).then (a.name.order b.name)

def fullOrder (a b : Ref) : Ordering :=
  (order a b).then (a.target.order b.target)

end Ref

end CommitLanes
