import CommitLanes.Proofs.Layout.Memory
import Mathlib.Order.Bounds.Basic

/-! Which lanes a commit takes.

The choice is greedy and can be read off the row: the lowest lane on which an edge comes in, or
the lowest without an edge, and for each further parent the lowest that neither an edge going by
nor a parent before it has. The counts that a layout goes by are in step with the edges whenever
a lane is chosen, although edges are led together, closed and opened in between.
-/

set_option autoImplicit false

namespace CommitLanes

theorem Lane.FirstFree.isLeast {taken : List Lane} {lane : Lane} (first : FirstFree taken lane) :
    IsLeast {other | other ∉ taken} lane := by
  constructor
  · exact first.free
  · intro other free
    by_contra lower
    exact free (first.least other (Nat.lt_of_not_le lower))

namespace Layout

open Lane (FirstFree)

def opened (layout : Layout) (node : Commit) : List Edge :=
  (layout.push node).2.ledger.edges.drop (layout.push node).1.passing.length

/-- The lanes of a row and of the edges opened below it are the lowest that can be had. -/
structure Row.Greedy (row : Row) (opened : List Edge) : Prop where
  arriving : row.incoming ≠ [] → IsLeast {lane | ∃ edge ∈ row.incoming, edge.origin = lane} row.lane
  alone : row.incoming = [] → IsLeast {lane | ∀ edge ∈ row.edges, edge.origin ≠ lane} row.lane
  lanes : opened.map (·.origin) = row.parentLanes
  straight : ∀ edge ∈ opened, edge.isStraight = true
  first : ∀ edge ∈ opened.head?, edge.origin = row.lane ∧ edge.kind = .firstParent
  later : ∀ place edge, opened[place + 1]? = some edge →
    edge.kind = .merge ∧
      IsLeast {lane | (∀ other ∈ row.passing, other.origin ≠ lane) ∧ lane ∉ row.parentLanes.take (place + 1)}
        edge.origin

section Branching

variable {taken lanes : List Lane} {lane : Lane}

theorem Branching.firstFree (branching : Branching taken lane lanes) {place : Nat} {branch : Lane}
    (found : lanes[place + 1]? = some branch) : FirstFree (taken ++ lanes.take (place + 1)) branch := by
  induction branching with
  | none => cases found
  | first => cases found
  | @next before other branching nonempty free ih =>
      rcases Nat.lt_trichotomy (place + 1) before.length with inside | last | outside
      · rw [List.getElem?_append_left inside] at found
        rw [List.take_append_of_le_length (Nat.le_of_lt inside)]
        exact ih found
      · rw [last, List.getElem?_concat_length] at found
        cases found
        rw [last, List.take_left]
        exact free
      · rw [List.getElem?_eq_none (by simp; omega)] at found
        cases found

end Branching

section Own

variable {lanes : List Lane} {parents : List ObjectId} {edge : Edge}

theorem kind_of_ownEdges {place : Nat} (found : (ownEdges lanes parents)[place]? = some edge) :
    edge.kind = if place = 0 then .firstParent else .merge := by
  rw [ownEdges, List.getElem?_mapIdx] at found
  obtain ⟨pair, -, rfl⟩ := Option.map_eq_some_iff.mp found
  rfl

theorem origin_of_ownEdges (paired : lanes.length = parents.length) {place : Nat}
    (found : (ownEdges lanes parents)[place]? = some edge) : lanes[place]? = some edge.origin := by
  rw [← map_origin_ownEdges paired, List.getElem?_map, found]
  rfl

end Own

section Step

variable {layout next : Layout} {node : Commit} {row : Row}

theorem Laid.isLeast_of_arriving (laid : Laid layout node row next) (some : row.incoming ≠ []) :
    IsLeast {lane | ∃ edge ∈ row.incoming, edge.origin = lane} row.lane := by
  have incoming : ∀ lane : Lane, (∃ edge ∈ row.incoming, edge.origin = lane) ↔
      ∃ edge ∈ layout.ledger.edges, edge.target = node.id ∧ edge.origin = lane := by
    intro lane
    simp only [Row.mem_incoming, laid.edges, laid.here, List.mem_map]
    constructor
    · rintro ⟨_, ⟨⟨edge, inside, rfl⟩, target⟩, origin⟩
      exact ⟨edge, inside, by simpa using target, by simpa using origin⟩
    · rintro ⟨edge, inside, target, origin⟩
      exact ⟨_, ⟨⟨edge, inside, rfl⟩, by simpa using target⟩, by simpa using origin⟩
  obtain ⟨arrival, member⟩ := List.exists_mem_of_ne_nil _ some
  obtain ⟨edge, inside, target, -⟩ := (incoming arrival.origin).mp ⟨arrival, member, rfl⟩
  constructor
  · exact (incoming row.lane).mpr (laid.landing.arrives ⟨edge, inside, target⟩)
  · intro lane chosen
    obtain ⟨other, inside, target, rfl⟩ := (incoming lane).mp chosen
    exact laid.landing.lowest other inside target

theorem Laid.isLeast_of_alone (laid : Laid layout node row next) (none : row.incoming = []) :
    IsLeast {lane | ∀ edge ∈ row.edges, edge.origin ≠ lane} row.lane := by
  have elsewhere : ∀ edge ∈ layout.ledger.edges, edge.target ≠ node.id := by
    have targets := Row.incoming_eq_nil_iff.mp none
    rw [laid.edges, laid.here, List.forall_mem_map] at targets
    simpa using targets
  have first := (laid.landing.free elsewhere).isLeast
  rw [← laid.origins_eq] at first
  simpa only [List.mem_map, not_exists, not_and] using first

theorem Laid.drop_edges (laid : Laid layout node row next) :
    next.ledger.edges.drop row.passing.length = ownEdges row.parentLanes (layout.opens node) := by
  rw [laid.next_edges, List.drop_left]

theorem Laid.greedy (laid : Laid layout node row next) :
    row.Greedy (ownEdges row.parentLanes (layout.opens node)) := by
  refine ⟨laid.isLeast_of_arriving, laid.isLeast_of_alone, map_origin_ownEdges laid.paired, ?_, ?_, ?_⟩
  · exact fun edge member => isStraight_of_eq (straight_ownEdges edge member)
  · intro edge head
    rw [Option.mem_def, List.head?_eq_getElem?] at head
    have onLane := origin_of_ownEdges laid.paired head
    -- Whichever parent opens the first edge, it is the first of the lanes that are given out.
    have nonempty : row.parentLanes ≠ [] := by
      intro empty
      simp [empty] at onLane
    have first := laid.branching.head nonempty
    rw [List.head?_eq_getElem?, onLane] at first
    exact ⟨Option.some.inj first, kind_of_ownEdges head⟩
  · intro place edge found
    refine ⟨kind_of_ownEdges found, ?_⟩
    have free := (laid.branching.firstFree (origin_of_ownEdges laid.paired found)).isLeast
    simpa only [List.mem_append, List.mem_map, not_or, not_exists, not_and] using free

end Step

/-- Every commit takes the lowest lane on which an edge comes in for it, else the lowest that is
free, and gives its edges, one for each parent that was not remembered, at its first listing, the
lowest lanes that are left. -/
theorem lanes_chosen_greedily (window : Option Nat) (moves : List Move) (node : Commit) :
    let layout := after window moves
    let row := (layout.push node).1
    let next := (layout.push node).2
    next.ledger.edges = row.passing ++ layout.opened node ∧
      row.Greedy (layout.opened node) ∧
      (layout.Accepts node →
        (layout.opened node).map (·.target) = node.parents.eraseDups.filter fun parent => parent ∉ next.seen) := by
  intro layout row next
  have laid : Laid layout node row next := laid_push (settled_after window moves) node
  have opened : layout.opened node = ownEdges row.parentLanes (layout.opens node) := laid.drop_edges
  rw [opened]
  refine ⟨laid.next_edges, laid.greedy, fun accepts => ?_⟩
  have new := accepts_iff.mp accepts
  rw [map_target_ownEdges laid.paired, opens, if_neg new]
  show _ = firstListed next.seen node.parents
  rw [seen_push, if_neg new]

/-- A merge under one line, beside another. Of its parents the first came too early and the last
is listed twice, so the edge of the second is the first one, on the lane of the merge. -/
theorem lanes_chosen_greedily_skipping :
    let layout := after none [.push (sampleNode 9 [5]), .push (sampleNode 8 [7])]
    let merge := sampleNode 5 [9, 3, 2, 3]
    let row := (layout.push merge).1
    layout.Accepts merge ∧ (layout.opened merge).map (·.target) = [3, 2].map (fun number => (sampleNode number []).id) ∧
      row.lane = 0 ∧ (layout.opened merge).map (·.origin) = [0, 2] ∧ row.Greedy (layout.opened merge) := by
  intro layout merge row
  have accepts : layout.Accepts merge := by decide +kernel
  have lanes : row.parentLanes = [0, 2] := by decide +kernel
  obtain ⟨-, greedy, targets⟩ :=
    lanes_chosen_greedily none [.push (sampleNode 9 [5]), .push (sampleNode 8 [7])] merge
  refine ⟨accepts, (targets accepts).trans ?_, ?_, greedy.lanes.trans lanes, greedy⟩
  · decide +kernel
  · decide +kernel

end Layout

end CommitLanes
