import CommitLanes.ObjectId

/-! Lines of the graph between two rows. Lanes are columns, numbered from the left. -/

set_option autoImplicit false

namespace CommitLanes

abbrev Lane := Nat

/-- The line to the first parent continues the child's own; the others branch off. -/
inductive Edge.Kind where
  | firstParent
  | merge
  deriving DecidableEq, Repr

/-- A line from a commit that was laid out to a parent that has not come yet. -/
structure Edge where
  /-- The lane on which it enters a row. -/
  origin : Lane
  /-- The lane on which it leaves the row, another one only if it runs into the node. -/
  terminal : Lane
  target : ObjectId
  kind : Edge.Kind
  deriving DecidableEq, Repr

namespace Edge

def straight (lane : Lane) (target : ObjectId) (kind : Kind) : Edge :=
  ⟨lane, lane, target, kind⟩

def isStraight (edge : Edge) : Bool :=
  edge.origin = edge.terminal

end Edge

end CommitLanes
