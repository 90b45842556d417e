import CommitLanes.Commit
import CommitLanes.Lane.Edge

/-! One commit's place in the graph, with all that is needed to draw its row. -/

set_option autoImplicit false

namespace CommitLanes.Layout

structure Row where
  /-- Its number among all commits laid out, shown or not. -/
  number : Nat
  node : Commit
  lane : Lane
  /-- The edges as they enter the row; those that arrive leave on the node's lane. -/
  edges : List Edge
  parentLanes : List Lane
  deriving DecidableEq

namespace Row

def countAt (row : Row) (lane : Lane) : Nat :=
  (row.edges.filter fun edge => edge.origin = lane).length

def edgeAt? (row : Row) (lane : Lane) (position : Nat) : Option Edge :=
  (row.edges.filter fun edge => edge.origin = lane)[position]?

def incoming (row : Row) : List Edge :=
  row.edges.filter fun edge => edge.target = row.node.id

def passing (row : Row) : List Edge :=
  row.edges.filter fun edge => edge.target ≠ row.node.id

/-- One past the highest of the lanes, none giving zero. -/
def span (lanes : List Lane) : Nat :=
  lanes.foldl (fun widest lane => max widest (lane + 1)) 0

def width (row : Row) : Nat :=
  max (max (span (row.edges.map fun edge => max edge.origin edge.terminal)) (span row.parentLanes))
    (row.lane + 1)

/-- Whether several lines leave the node. A commit whose other parents got no line is
not drawn as a merge. -/
def isMerge (row : Row) : Bool :=
  1 < row.parentLanes.length

end Row

end CommitLanes.Layout
