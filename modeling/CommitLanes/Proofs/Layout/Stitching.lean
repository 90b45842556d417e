import CommitLanes.Proofs.Layout.Settled

/-! One row continues the other.

A row shows again, in the same order and on the same lanes, the lines that went by the commit
above it, and then the lines that this commit opened. Where a line leaves a row is settled by
the row itself, so only the lane of entry, the target and the kind are compared.
-/

set_option autoImplicit false

namespace CommitLanes

def Edge.line (edge : Edge) : Lane × ObjectId × Edge.Kind :=
  (edge.origin, edge.target, edge.kind)

@[simp] theorem Edge.line_arriving (target : ObjectId) (lane : Lane) (edge : Edge) :
    (edge.arriving target lane).line = edge.line := by
  unfold arriving
  split <;> rfl

namespace Layout

variable {layout next : Layout} {node : Commit} {row : Row}

theorem Laid.map_line (laid : Laid layout node row next) :
    row.edges.map Edge.line = layout.ledger.edges.map Edge.line := by
  rw [laid.edges, List.map_map]
  exact List.map_congr_left fun edge _ => Edge.line_arriving _ _ edge

/-- One line for every lane on which a commit opens an edge, the first to its first parent. -/
def openedLines (lanes : List Lane) (parents : List ObjectId) : List (Lane × ObjectId × Edge.Kind) :=
  (lanes.zip parents).mapIdx fun place pair =>
    (pair.1, pair.2, if place = 0 then .firstParent else .merge)

theorem map_line_ownEdges (lanes : List Lane) (parents : List ObjectId) :
    (ownEdges lanes parents).map Edge.line = openedLines lanes parents := by
  apply List.ext_getElem?
  intro place
  rw [List.getElem?_map, ownEdges, openedLines, List.getElem?_mapIdx, List.getElem?_mapIdx, Option.map_map]
  rfl

theorem Laid.map_line_next (laid : Laid layout node row next) :
    next.ledger.edges.map Edge.line =
      row.passing.map Edge.line ++ openedLines row.parentLanes (layout.opens node) := by
  rw [laid.next_edges, List.map_append, map_line_ownEdges]

/-- Clearing the lane of a commit without edges of its own takes away nothing else. -/
theorem Laid.next_edges_of_none (laid : Laid layout node row next) (none : row.parentLanes = []) :
    next.ledger.edges = row.passing := by
  rw [laid.next_edges, none]
  simp [ownEdges]

/-- Between two rows no line is lost, doubled, reordered or moved. -/
theorem lines_of_consecutive_rows (window : Option Nat) (moves : List Move) (first second : Commit) :
    let layout := after window moves
    let row := (layout.push first).1
    let next := (layout.push first).2
    (next.push second).1.edges.map Edge.line =
        row.passing.map Edge.line ++ openedLines row.parentLanes (layout.opens first) ∧
      row.parentLanes.length = (layout.opens first).length ∧
      (row.parentLanes = [] → next.ledger.edges = row.passing) := by
  intro layout row next
  have settled : layout.Settled := settled_after window moves
  have above := laid_push settled first
  have below := laid_push (settled.push first) second
  refine ⟨?_, above.paired, above.next_edges_of_none⟩
  rw [below.map_line, above.map_line_next]

end Layout

end CommitLanes
