import CommitLanes.Proofs.Layout.Opening
import Mathlib.Data.List.Nodup

/-! A layout between two commits, and what one commit does to it.

Between commits every open edge runs straight down a lane of its own, and none leads to a
commit that is remembered. While a commit is laid out this fails: edges are stacked on its
lane. `Laid` says all that a commit leaves behind, in terms of the edges alone and alike for
a repeat, so that nothing else has to look into the steps.
-/

set_option autoImplicit false

namespace CommitLanes.Layout

open Lane (FirstFree)
open Lane.Ledger (ofEdges)

structure Landing (edges : List Edge) (commit : ObjectId) (lane : Lane) : Prop where
  lowest : ∀ edge ∈ edges, edge.target = commit → lane ≤ edge.origin
  arrives : (∃ edge ∈ edges, edge.target = commit) → ∃ edge ∈ edges, edge.target = commit ∧ edge.origin = lane
  free : (∀ edge ∈ edges, edge.target ≠ commit) → FirstFree (edges.map (·.origin)) lane

section Landing

variable {edges : List Edge} {commit : ObjectId} {lane : Lane}

theorem landing_laneFor (straight : ∀ edge ∈ edges, edge.terminal = edge.origin) (commit : ObjectId) :
    Landing edges commit (laneFor (ofEdges edges) ((ofEdges edges).targeting commit)) := by
  have mem_origins : ∀ lane : Lane,
      lane ∈ ((ofEdges edges).targeting commit).filterMap (fun place => edges[place]?.map (·.origin)) ↔
        ∃ edge ∈ edges, edge.target = commit ∧ edge.origin = lane := by
    intro lane
    simp only [List.mem_filterMap, Lane.Ledger.mem_targeting_ofEdges, Option.map_eq_some_iff]
    constructor
    · rintro ⟨place, ⟨edge, found, same⟩, edge, again, rfl⟩
      cases found.symm.trans again
      exact ⟨edge, List.mem_of_getElem? found, same, rfl⟩
    · rintro ⟨edge, member, same, rfl⟩
      obtain ⟨place, found⟩ := List.mem_iff_getElem?.mp member
      exact ⟨place, ⟨edge, found, same⟩, edge, found, rfl⟩
  unfold laneFor
  rw [Lane.Ledger.edges_ofEdges]
  cases least : (((ofEdges edges).targeting commit).filterMap
      fun place => edges[place]?.map (·.origin)).min? with
  | none =>
      rw [List.min?_eq_none_iff] at least
      have alone : ∀ edge ∈ edges, edge.target ≠ commit := by
        intro edge member same
        have origin := (mem_origins edge.origin).mpr ⟨edge, member, same, rfl⟩
        rw [least] at origin
        cases origin
      exact ⟨fun edge member same => absurd same (alone edge member),
        fun ⟨edge, member, same⟩ => absurd same (alone edge member),
        fun _ => Lane.Ledger.firstFree_of_straight straight⟩
  | some lane =>
      obtain ⟨member, lowest⟩ := List.min?_eq_some_iff.mp least
      obtain ⟨edge, inside, same, origin⟩ := (mem_origins lane).mp member
      exact ⟨fun other member same => lowest _ ((mem_origins _).mpr ⟨other, member, same, rfl⟩),
        fun _ => ⟨edge, inside, same, origin⟩,
        fun alone => absurd same (alone edge inside)⟩

theorem Landing.notMem_passing (landing : Landing edges commit lane) (apart : (edges.map (·.origin)).Nodup) :
    lane ∉ (edges.filter fun edge => edge.target ≠ commit).map (·.origin) := by
  intro member
  obtain ⟨passing, kept, onLane⟩ := List.mem_map.mp member
  obtain ⟨inside, other⟩ := List.mem_filter.mp kept
  have other : passing.target ≠ commit := of_decide_eq_true other
  by_cases arrival : ∃ edge ∈ edges, edge.target = commit
  · obtain ⟨edge, found, same, origin⟩ := landing.arrives arrival
    have equal := List.inj_on_of_nodup_map apart inside found (onLane.trans origin.symm)
    exact other (equal ▸ same)
  · have alone : ∀ edge ∈ edges, edge.target ≠ commit := fun edge found same => arrival ⟨edge, found, same⟩
    exact (landing.free alone).free (List.mem_map.mpr ⟨passing, inside, onLane⟩)

end Landing

/-- The parents to which a commit opens an edge. A repeat opens none. -/
def opens (layout : Layout) (node : Commit) : List ObjectId :=
  if node.id ∈ layout.seen then [] else firstListed (remember layout.window node.id layout.seen) node.parents

/-- What laying out a commit leaves behind: its row and the next state. -/
structure Laid (layout : Layout) (node : Commit) (row : Row) (next : Layout) : Prop where
  here : row.node = node
  edges : row.edges = layout.ledger.edges.map (Edge.arriving node.id row.lane)
  landing : Landing layout.ledger.edges node.id row.lane
  paired : row.parentLanes.length = (layout.opens node).length
  branching : Branching (row.passing.map (·.origin)) row.lane row.parentLanes
  ledger : next.ledger = ofEdges (row.passing ++ ownEdges row.parentLanes (layout.opens node))

structure Settled (layout : Layout) : Prop where
  counted : layout.ledger = ofEdges layout.ledger.edges
  straight : ∀ edge ∈ layout.ledger.edges, edge.terminal = edge.origin
  apart : (layout.ledger.edges.map (·.origin)).Nodup
  unseen : ∀ edge ∈ layout.ledger.edges, edge.target ∉ layout.seen

section Step

variable {layout next : Layout} {node : Commit} {row : Row}

theorem passing_of_edges {edges : List Edge} (here : row.node = node)
    (led : row.edges = edges.map (Edge.arriving node.id row.lane)) :
    row.passing = edges.filter fun edge => edge.target ≠ node.id := by
  rw [Row.passing, here, led, List.filter_map]
  have same : edges.filter ((fun edge => decide (edge.target ≠ node.id)) ∘ Edge.arriving node.id row.lane) =
      edges.filter fun edge => edge.target ≠ node.id :=
    List.filter_congr fun edge _ => by simp
  rw [same]
  conv_rhs => rw [← List.map_id (edges.filter _)]
  exact List.map_congr_left fun edge kept =>
    Edge.arriving_of_ne (of_decide_eq_true (List.mem_filter.mp kept).2) row.lane

theorem laid_pushDuplicate (settled : layout.Settled) (repeated : node.id ∈ layout.seen) :
    Laid layout node (layout.pushDuplicate node).1 (layout.pushDuplicate node).2 := by
  have alone : ∀ edge ∈ layout.ledger.edges, edge.target ≠ node.id :=
    fun edge member same => settled.unseen edge member (same ▸ repeated)
  have led : layout.ledger.edges =
      layout.ledger.edges.map (Edge.arriving node.id layout.ledger.lowestFreeLane) := by
    conv_lhs => rw [← List.map_id layout.ledger.edges]
    exact List.map_congr_left fun edge member => (Edge.arriving_of_ne (alone edge member) _).symm
  have free : FirstFree (layout.ledger.edges.map (·.origin)) layout.ledger.lowestFreeLane := by
    have first := Lane.Ledger.firstFree_of_straight settled.straight
    rwa [← settled.counted] at first
  have none : layout.opens node = [] := if_pos repeated
  have passing : (layout.pushDuplicate node).1.passing = layout.ledger.edges :=
    List.filter_eq_self.mpr fun edge member => decide_eq_true (alone edge member)
  refine ⟨rfl, led, ?_, by rw [none]; rfl, .none, ?_⟩
  · exact ⟨fun edge member same => absurd same (alone edge member),
      fun ⟨edge, member, same⟩ => absurd same (alone edge member), fun _ => free⟩
  · rw [passing, none]
    simpa [pushDuplicate, ownEdges] using settled.counted

theorem laid_pushNew (settled : layout.Settled) (new : node.id ∉ layout.seen) :
    Laid layout node (layout.pushNew node).1 (layout.pushNew node).2 := by
  obtain ⟨edges, counted⟩ : ∃ edges, layout.ledger = ofEdges edges := ⟨_, settled.counted⟩
  obtain ⟨-, straight, apart, -⟩ := settled
  simp only [counted, Lane.Ledger.edges_ofEdges] at straight apart
  have landing := landing_laneFor straight node.id
  have vacant := landing.notMem_passing apart
  have keptStraight : ∀ edge ∈ edges.filter (fun edge => edge.target ≠ node.id), edge.terminal = edge.origin :=
    fun edge member => straight edge (List.mem_of_mem_filter member)
  have follows := openParents_follows keptStraight (remember layout.window node.id layout.seen) node
    (laneFor (ofEdges edges) ((ofEdges edges).targeting node.id))
  have opened : layout.opens node = firstListed (remember layout.window node.id layout.seen) node.parents :=
    if_neg new
  unfold pushNew
  simp only [counted, Lane.Ledger.converge_targeting, Lane.Ledger.closeAt_arriving, Lane.Ledger.edges_ofEdges]
  generalize laneFor (ofEdges edges) ((ofEdges edges).targeting node.id) = lane at *
  generalize openParents (ofEdges (edges.filter fun edge => edge.target ≠ node.id))
    (remember layout.window node.id layout.seen) node lane = opening at *
  obtain ⟨registered, paired, branching, ledger⟩ := follows
  have passing : (Row.mk layout.rows node lane (edges.map (Edge.arriving node.id lane))
      opening.parentLanes).passing = edges.filter fun edge => edge.target ≠ node.id :=
    passing_of_edges rfl rfl
  refine ⟨rfl, ?_, ?_, ?_, ?_, ?_⟩
  · rw [counted]; rfl
  · rw [counted]; exact landing
  · rw [opened, paired, registered]
  · rw [passing]; exact branching
  · rw [passing, opened, ← registered]
    dsimp only
    split
    next empty =>
      have rootless : opening.parentLanes = [] := List.isEmpty_iff.mp empty
      have stays : ((edges.filter fun edge => edge.target ≠ node.id).filter fun edge => edge.origin ≠ lane) =
          edges.filter fun edge => edge.target ≠ node.id :=
        List.filter_eq_self.mpr fun edge member =>
          decide_eq_true fun same => vacant (List.mem_map.mpr ⟨edge, member, same⟩)
      -- A root has nothing of its own on its lane, and nothing else is there either.
      rw [ledger, rootless]
      simp only [ownEdges, List.zip_nil_left, List.mapIdx_nil, List.append_nil, Lane.Ledger.clear_ofEdges, stays]
    next => exact ledger

theorem laid_push (settled : layout.Settled) (node : Commit) :
    Laid layout node (layout.push node).1 (layout.push node).2 := by
  unfold push
  split
  next repeated => exact laid_pushDuplicate settled repeated
  next new => exact laid_pushNew settled new

theorem Laid.passing_eq (laid : Laid layout node row next) :
    row.passing = layout.ledger.edges.filter fun edge => edge.target ≠ node.id :=
  passing_of_edges laid.here laid.edges

theorem Laid.origins_eq (laid : Laid layout node row next) :
    row.edges.map (·.origin) = layout.ledger.edges.map (·.origin) := by
  rw [laid.edges, List.map_map]
  exact List.map_congr_left fun edge _ => Edge.origin_arriving _ _ edge

theorem Laid.next_edges (laid : Laid layout node row next) :
    next.ledger.edges = row.passing ++ ownEdges row.parentLanes (layout.opens node) := by
  rw [laid.ledger]
  rfl

theorem Laid.vacant (laid : Laid layout node row next) (settled : layout.Settled) :
    row.lane ∉ row.passing.map (·.origin) := by
  rw [laid.passing_eq]
  exact laid.landing.notMem_passing settled.apart

theorem Laid.distinct (laid : Laid layout node row next) (settled : layout.Settled) :
    (row.passing.map (·.origin) ++ row.parentLanes).Nodup := by
  apply laid.branching.distinct _ (laid.vacant settled)
  rw [laid.passing_eq]
  exact settled.apart.sublist ((List.filter_sublist).map _)

theorem Laid.passing_straight (laid : Laid layout node row next) (settled : layout.Settled) :
    ∀ edge ∈ row.passing, edge.terminal = edge.origin := by
  rw [laid.passing_eq]
  exact fun edge member => settled.straight edge (List.mem_of_mem_filter member)

end Step

section Seen

variable {layout : Layout}

theorem of_mem_remember {window : Option Nat} {id other : ObjectId} {seen : List ObjectId}
    (member : other ∈ remember window id seen) : other = id ∨ other ∈ seen := by
  cases window with
  | none => exact List.mem_cons.mp member
  | some size => exact List.mem_cons.mp (List.mem_of_mem_take member)

theorem seen_push (layout : Layout) (node : Commit) :
    (layout.push node).2.seen =
      if node.id ∈ layout.seen then layout.seen else remember layout.window node.id layout.seen := by
  unfold push
  split <;> rfl

theorem notMem_seen_of_opens {node : Commit} {parent : ObjectId} (opened : parent ∈ layout.opens node) :
    parent ∉ (layout.push node).2.seen := by
  unfold opens at opened
  rw [seen_push]
  split at opened
  · cases opened
  · simpa [*] using (mem_firstListed.mp opened).2

theorem notMem_seen_push {node : Commit} {other : ObjectId} (unseen : other ∉ layout.seen)
    (different : other ≠ node.id) : other ∉ (layout.push node).2.seen := by
  rw [seen_push]
  split
  · exact unseen
  · exact fun member => (of_mem_remember member).elim different unseen

end Seen

section Reached

variable {layout : Layout}

theorem settled_of_empty (drained : layout.ledger = .empty) : layout.Settled := by
  have none : layout.ledger.edges = [] := congrArg Lane.Ledger.edges drained
  refine ⟨?_, ?_, ?_, ?_⟩
  · rw [none, drained, Lane.Ledger.empty_eq]
  · simp [none]
  · simp [none]
  · simp [none]

theorem settled_start (window : Option Nat) : (start window).Settled :=
  settled_of_empty rfl

theorem Settled.push (settled : layout.Settled) (node : Commit) : (layout.push node).2.Settled := by
  have laid := laid_push settled node
  refine ⟨?_, ?_, ?_, ?_⟩
  · rw [laid.ledger]
    rfl
  · rw [laid.next_edges]
    intro edge member
    rcases List.mem_append.mp member with kept | own
    · exact laid.passing_straight settled edge kept
    · exact straight_ownEdges edge own
  · rw [laid.next_edges, List.map_append, map_origin_ownEdges laid.paired]
    exact laid.distinct settled
  · rw [laid.next_edges]
    intro edge member
    rcases List.mem_append.mp member with kept | own
    · rw [laid.passing_eq] at kept
      obtain ⟨inside, other⟩ := List.mem_filter.mp kept
      exact notMem_seen_push (settled.unseen edge inside) (of_decide_eq_true other)
    · have target : edge.target ∈ layout.opens node := by
        rw [← map_target_ownEdges laid.paired]
        exact List.mem_map_of_mem own
      exact notMem_seen_of_opens target

theorem settled_finish (layout : Layout) : layout.finish.2.Settled :=
  settled_of_empty rfl

theorem Settled.move (settled : layout.Settled) (step : Move) : (layout.move step).Settled := by
  cases step with
  | push node => exact settled.push node
  | finish => exact settled_finish layout

theorem Settled.foldl_move (settled : layout.Settled) (moves : List Move) :
    (moves.foldl Layout.move layout).Settled := by
  induction moves generalizing layout with
  | nil => exact settled
  | cons step moves ih => exact ih (settled.move step)

theorem settled_after (window : Option Nat) (moves : List Move) : (after window moves).Settled :=
  (settled_start window).foldl_move moves

theorem pushAll_cons (layout : Layout) (node : Commit) (rest : List Commit) :
    layout.pushAll (node :: rest) =
      ((layout.push node).1 :: ((layout.push node).2.pushAll rest).1, ((layout.push node).2.pushAll rest).2) :=
  rfl

theorem node_push (layout : Layout) (node : Commit) : (layout.push node).1.node = node := by
  unfold push
  split <;> rfl

theorem pushAll_append (layout : Layout) (nodes others : List Commit) :
    layout.pushAll (nodes ++ others) =
      ((layout.pushAll nodes).1 ++ ((layout.pushAll nodes).2.pushAll others).1,
        ((layout.pushAll nodes).2.pushAll others).2) := by
  induction nodes generalizing layout with
  | nil => rfl
  | cons node rest ih => rw [List.cons_append, pushAll_cons, pushAll_cons, ih, List.cons_append]

theorem map_node_pushAll (layout : Layout) (nodes : List Commit) :
    (layout.pushAll nodes).1.map (·.node) = nodes := by
  induction nodes generalizing layout with
  | nil => rfl
  | cons node rest ih => rw [pushAll_cons, List.map_cons, ih, node_push]

theorem length_pushAll (layout : Layout) (nodes : List Commit) :
    (layout.pushAll nodes).1.length = nodes.length := by
  rw [← List.length_map (·.node), map_node_pushAll]

theorem Settled.exists_laid (settled : layout.Settled) {nodes : List Commit} {row : Row}
    (member : row ∈ (layout.pushAll nodes).1) :
    ∃ before node next, before.Settled ∧ Laid before node row next := by
  induction nodes generalizing layout with
  | nil => cases member
  | cons node rest ih =>
      rcases List.mem_cons.mp member with rfl | later
      · exact ⟨layout, node, _, settled, laid_push settled node⟩
      · exact ih (settled.push node) later

end Reached

end CommitLanes.Layout
