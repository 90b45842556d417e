import CommitLanes.Ordered
import CommitLanes.Ref

/-! Refs by the commit they point at.

A catalog is made once from all refs and does not change. Every target has its refs in
display order, each of them once.
-/

set_option autoImplicit false

namespace CommitLanes.Ref

structure Catalog where
  groups : List (ObjectId × List Ref)
  head : Option ObjectId

namespace Catalog

def arrange (refs : List Ref) : List Ref :=
  Ordered.distinct (Ordered.sort Ref.order refs)

/-- Of several refs that claim to be the head, the last one counts. -/
def ofRefs (refs : List Ref) : Catalog where
  groups :=
    (Ordered.distinct (Ordered.sort ObjectId.order (refs.map (·.target)))).map fun target =>
      (target, arrange (refs.filter fun ref => ref.target = target))
  head := (refs.reverse.find? Ref.isHead).map (·.target)

def empty : Catalog :=
  ofRefs []

def refsFor (catalog : Catalog) (id : ObjectId) : List Ref :=
  ((catalog.groups.find? fun group => group.1 = id).map (·.2)).getD []

def size (catalog : Catalog) : Nat :=
  catalog.groups.length

def isEmpty (catalog : Catalog) : Bool :=
  catalog.groups.isEmpty

def toList (catalog : Catalog) : List Ref :=
  catalog.groups.flatMap (·.2)

end Catalog

end CommitLanes.Ref
