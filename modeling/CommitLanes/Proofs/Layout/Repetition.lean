import CommitLanes.Proofs.Layout.Exclusivity
import CommitLanes.Proofs.Layout.Window

/-! A commit that is noticed to come again.

It gets a row of its own among the lines that happen to be open, and is counted. Nothing else
that a layout goes by is touched, neither the open edges nor what is remembered and in which
order it is forgotten, so whatever comes later is laid out as if the repeat had not been there.
-/

set_option autoImplicit false

namespace CommitLanes.Layout

def Row.delayed (row : Row) : Row :=
  { row with number := row.number + 1 }

/-- A layout beside the same one that met a repeat, which was shown in this row. -/
structure Trails (shown : Row) (plain marked : Layout) : Prop where
  ledger : marked.ledger = plain.ledger
  seen : marked.seen = plain.seen
  window : marked.window = plain.window
  rows : marked.rows = plain.rows + 1
  anomalies : marked.anomalies.length = plain.anomalies.length + 1
  maxWidth : marked.maxWidth = max shown.width plain.maxWidth

section Step

variable {shown : Row} {plain marked layout : Layout} {node : Commit}

theorem trails_push (repeated : node.id ∈ layout.seen) : Trails (layout.push node).1 layout (layout.push node).2 := by
  rw [push, if_pos repeated, pushDuplicate]
  exact ⟨rfl, rfl, rfl, rfl, List.length_append, Nat.max_comm _ _⟩

theorem Trails.push (trails : Trails shown plain marked) (node : Commit) :
    (marked.push node).1 = (plain.push node).1.delayed ∧ Trails shown (plain.push node).2 (marked.push node).2 := by
  have remembered : (marked.push node).2.seen = (plain.push node).2.seen := by
    rw [seen_push, seen_push, trails.seen, trails.window]
  obtain ⟨row, ledger, said, here, there⟩ :=
    push_congr trails.ledger (by rw [trails.seen]) fun _ parent _ => by rw [remembered]
  rw [trails.rows, ← number_push plain node] at row
  refine ⟨row, ledger, remembered, ?_, ?_, ?_, ?_⟩
  · rw [window_push, window_push, trails.window]
  · rw [rows_push, rows_push, trails.rows]
  · rw [here, there, List.length_append, List.length_append, trails.anomalies, Nat.add_right_comm]
  · rw [maxWidth_push, maxWidth_push, row, trails.maxWidth, Nat.max_assoc]
    rfl

theorem Trails.pushAll (trails : Trails shown plain marked) (nodes : List Commit) :
    (marked.pushAll nodes).1 = (plain.pushAll nodes).1.map Row.delayed ∧
      Trails shown (plain.pushAll nodes).2 (marked.pushAll nodes).2 := by
  induction nodes generalizing plain marked with
  | nil => exact ⟨rfl, trails⟩
  | cons node rest ih =>
      obtain ⟨row, trails⟩ := trails.push node
      obtain ⟨rows, trails⟩ := ih trails
      rw [pushAll_cons, pushAll_cons, row, rows]
      exact ⟨rfl, trails⟩

/-- No open edge leads to a remembered commit, so all of them go by. -/
theorem Settled.edges_of_repeat (settled : layout.Settled) (repeated : node.id ∈ layout.seen) :
    (layout.push node).1.edges = layout.ledger.edges ∧ (layout.push node).1.passing = layout.ledger.edges := by
  have laid := laid_push settled node
  have elsewhere : ∀ edge ∈ layout.ledger.edges, edge.target ≠ node.id :=
    fun edge member same => settled.unseen edge member (same ▸ repeated)
  refine ⟨by rw [Layout.push, if_pos repeated]; rfl, ?_⟩
  rw [laid.passing_eq]
  exact List.filter_eq_self.mpr fun edge member => decide_eq_true (elsewhere edge member)

end Step

/-- A repeat that is noticed leaves no trace but its own row, one anomaly and one row number. -/
theorem repeat_leaves_no_trace (window : Option Nat) (moves : List Move) (node : Commit) (later : List Commit)
    (repeated : node.id ∈ (after window moves).seen) :
    let layout := after window moves
    let row := (layout.push node).1
    let plain := layout.pushAll later
    let marked := (layout.push node).2.pushAll later
    marked.1 = plain.1.map Row.delayed ∧
      marked.2.finish.1 = plain.2.finish.1 ∧ marked.2.seen = plain.2.seen ∧
      marked.2.anomalies.length = plain.2.anomalies.length + 1 ∧
      marked.2.maxWidth = max row.width plain.2.maxWidth ∧
      row.edges = layout.ledger.edges ∧ row.passing = row.edges ∧ row.parentLanes = [] ∧
      (∀ edge ∈ row.edges, edge.origin ≠ row.lane ∧ edge.terminal ≠ row.lane) ∧
      ∀ lane < row.lane, ∃ edge ∈ row.edges, edge.origin = lane := by
  intro layout row plain marked
  have settled : layout.Settled := settled_after window moves
  have laid : Laid layout node row (layout.push node).2 := laid_push settled node
  obtain ⟨rows, trails⟩ := (trails_push repeated).pushAll later
  obtain ⟨edges, passing⟩ := settled.edges_of_repeat repeated
  have first : Lane.FirstFree (layout.ledger.edges.map (·.origin)) row.lane :=
    laid.landing.free fun edge member same => settled.unseen edge member (same ▸ repeated)
  refine ⟨rows, ?_, trails.seen, trails.anomalies, trails.maxWidth, edges, passing.trans edges.symm,
    laid.parentLanes_of_repeat repeated,
    (laid.exclusive settled).alone (settled.incoming_of_repeat laid repeated), fun lane lower => ?_⟩
  · rw [finish, finish, trails.ledger]
  · rw [edges]
    exact List.mem_map.mp (first.least lane lower)

/-- With room for two ids, a merge that is repeated beside three open lines does not stay
remembered for it: when it comes for the third time it is forgotten, and laid out as a new root. -/
theorem repeat_leaves_no_trace_forgotten :
    let moves := [.push (sampleNode 9 [5, 7]), .push (sampleNode 4 [3])]
    let later := [sampleNode 5 [3], sampleNode 9 []]
    let layout := after (some 2) moves
    let marked := (layout.push (sampleNode 9 [5, 7])).2.pushAll later
    (sampleNode 9 [5, 7]).id ∈ layout.seen ∧ marked.1 = (layout.pushAll later).1.map Row.delayed ∧
      marked.1.map (·.lane) = [0, 3] ∧ marked.2.anomalies.length = 1 := by
  intro moves later layout marked
  have remembered : (sampleNode 9 [5, 7]).id ∈ layout.seen := by decide +kernel
  have lanes : (layout.pushAll later).1.map (·.lane) = [0, 3] := by decide +kernel
  have quiet : (layout.pushAll later).2.anomalies.length = 0 := by decide +kernel
  obtain ⟨rows, -, -, anomalies, -⟩ := repeat_leaves_no_trace (some 2) moves (sampleNode 9 [5, 7]) later remembered
  refine ⟨remembered, rows, ?_, anomalies.trans (congrArg (· + 1) quiet)⟩
  rw [rows, List.map_map]
  exact lanes

end CommitLanes.Layout
