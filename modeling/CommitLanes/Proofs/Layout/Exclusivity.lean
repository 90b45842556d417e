import CommitLanes.Proofs.Layout.Row
import CommitLanes.Proofs.Layout.Settled

/-! A lane carries one line.

None of this is ever checked while a layout grows. Between commits it is the invariant of the
layout; within a row it follows from what a commit leaves behind, also where the lines of
several children run into one node and where a lane that has just become free is given away.
-/

set_option autoImplicit false

namespace CommitLanes

/-- Every line runs straight down and has its lane to itself. -/
structure Lane.Ledger.Exclusive (ledger : Lane.Ledger) : Prop where
  straight : ∀ edge ∈ ledger.edges, edge.isStraight = true
  apart : (ledger.edges.map (·.origin)).Nodup
  sameWidth : ledger.originWidth = ledger.terminalWidth

namespace Layout

/-- No two lines of a row share a lane, except where they run into the node. -/
structure Row.Exclusive (row : Row) : Prop where
  apart : (row.edges.map (·.origin)).Nodup
  countAt_le : ∀ lane, row.countAt lane ≤ 1
  incoming : ∀ edge ∈ row.incoming, edge.terminal = row.lane
  passing : ∀ edge ∈ row.passing,
    edge.isStraight = true ∧ edge.origin ≠ row.lane ∧ edge.origin ∉ row.parentLanes
  branches : row.parentLanes.Nodup
  continues : row.parentLanes ≠ [] → row.parentLanes.head? = some row.lane
  alone : row.incoming = [] → ∀ edge ∈ row.edges, edge.origin ≠ row.lane ∧ edge.terminal ≠ row.lane

theorem isStraight_of_eq {edge : Edge} (straight : edge.terminal = edge.origin) : edge.isStraight = true :=
  decide_eq_true straight.symm

variable {layout next : Layout} {node : Commit} {row : Row}

theorem Settled.exclusive (settled : layout.Settled) : layout.ledger.Exclusive := by
  refine ⟨fun edge member => isStraight_of_eq (settled.straight edge member), settled.apart, ?_⟩
  have ends : layout.ledger.edges.map (·.terminal) = layout.ledger.edges.map (·.origin) :=
    List.map_congr_left settled.straight
  rw [settled.counted, Lane.Ledger.originWidth_ofEdges, Lane.Ledger.terminalWidth_ofEdges, ends]

theorem Laid.terminal_incoming (laid : Laid layout node row next) {edge : Edge} (arrives : edge ∈ row.incoming) :
    edge.terminal = row.lane := by
  obtain ⟨member, target⟩ := Row.mem_incoming.mp arrives
  rw [laid.edges] at member
  obtain ⟨before, -, rfl⟩ := List.mem_map.mp member
  rw [laid.here, Edge.target_arriving] at target
  rw [Edge.arriving_of_target target, Edge.terminal_ledTo]

theorem Laid.notMem_origins (laid : Laid layout node row next) (none : row.incoming = []) :
    row.lane ∉ row.edges.map (·.origin) := by
  have elsewhere := Row.incoming_eq_nil_iff.mp none
  rw [laid.edges, laid.here, List.forall_mem_map] at elsewhere
  rw [laid.origins_eq]
  apply (laid.landing.free _).free
  intro edge member
  rw [← Edge.target_arriving node.id row.lane edge]
  exact elsewhere edge member

theorem Laid.exclusive (laid : Laid layout node row next) (settled : layout.Settled) : row.Exclusive := by
  have apart : (row.edges.map (·.origin)).Nodup := by
    rw [laid.origins_eq]
    exact settled.apart
  have straight := laid.passing_straight settled
  have below := List.nodup_append.mp (laid.distinct settled)
  refine ⟨apart, ?_, fun edge => laid.terminal_incoming, ?_, below.2.1, laid.branching.head, ?_⟩
  · intro lane
    rw [Row.countAt_eq]
    exact List.nodup_iff_count.mp apart lane
  · intro edge passes
    have onLane : edge.origin ∈ row.passing.map (·.origin) := List.mem_map_of_mem passes
    refine ⟨isStraight_of_eq (straight edge passes), ?_, ?_⟩
    · exact fun same => laid.vacant settled (same ▸ onLane)
    · exact fun branch => below.2.2 _ onLane _ branch rfl
  · intro none edge member
    have beside : edge.origin ≠ row.lane := fun same =>
      laid.notMem_origins none (same ▸ List.mem_map_of_mem member)
    have passes : edge ∈ row.passing :=
      Row.mem_passing.mpr ⟨member, Row.incoming_eq_nil_iff.mp none edge member⟩
    exact ⟨beside, straight edge passes ▸ beside⟩

theorem Laid.isFree_of_none (laid : Laid layout node row next) (settled : layout.Settled)
    (none : row.parentLanes = []) : next.ledger.isFree row.lane = true := by
  have ends : row.passing.map (·.terminal) = row.passing.map (·.origin) :=
    List.map_congr_left (laid.passing_straight settled)
  have kept : next.ledger = .ofEdges row.passing := by
    rw [laid.ledger, none]
    simp [ownEdges]
  rw [kept, Lane.Ledger.isFree_ofEdges, ends]
  exact ⟨laid.vacant settled, laid.vacant settled⟩

theorem Settled.incoming_of_repeat (settled : layout.Settled) (laid : Laid layout node row next)
    (repeated : node.id ∈ layout.seen) : row.incoming = [] := by
  rw [Row.incoming_eq_nil_iff, laid.edges, laid.here, List.forall_mem_map]
  intro edge member
  rw [Edge.target_arriving]
  exact fun same => settled.unseen edge member (same ▸ repeated)

theorem Laid.parentLanes_of_repeat (laid : Laid layout node row next) (repeated : node.id ∈ layout.seen) :
    row.parentLanes = [] := by
  have none : layout.opens node = [] := if_pos repeated
  rw [← List.length_eq_zero_iff, laid.paired, none, List.length_nil]

/-- Lines that are open at the same time are on different lanes, before, in and after every row. -/
theorem lanes_exclusive (window : Option Nat) (moves : List Move) (node : Commit) :
    let layout := after window moves
    let row := (layout.push node).1
    let next := (layout.push node).2
    layout.ledger.Exclusive ∧ (∀ edge ∈ layout.ledger.edges, edge.target ∉ layout.seen) ∧
      row.Exclusive ∧
      (node.id ∈ layout.seen → row.incoming = [] ∧ row.parentLanes = []) ∧
      (row.parentLanes = [] → next.ledger.isFree row.lane = true) := by
  intro layout row next
  have settled : layout.Settled := settled_after window moves
  have laid : Laid layout node row next := laid_push settled node
  exact ⟨settled.exclusive, settled.unseen, laid.exclusive settled,
    fun repeated => ⟨settled.incoming_of_repeat laid repeated, laid.parentLanes_of_repeat repeated⟩,
    laid.isFree_of_none settled⟩

end Layout

end CommitLanes
