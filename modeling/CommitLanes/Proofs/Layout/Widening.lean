import CommitLanes.Proofs.Layout.Choice

/-! How much wider the open edges get with one commit.

Lanes are given back before lanes are taken, and a lane that is taken is never further out than
one past all that are in use. So each edge that a commit opens widens the layout by one lane at
most, and the first by none where the commit stands on a lane that was in use.
-/

set_option autoImplicit false

namespace CommitLanes

open Layout.Row (span)

namespace Lane

variable {lanes others : List Lane} {lane : Lane}

theorem span_mono (inside : lanes ⊆ others) : span lanes ≤ span others :=
  (span_le_iff lanes _).mpr fun _ member => lt_span (inside member)

theorem FirstFree.le_span (first : FirstFree lanes lane) : lane ≤ span lanes := by
  by_contra beyond
  have taken : span lanes ∈ lanes := first.least _ (Nat.lt_of_not_le beyond)
  exact Nat.lt_irrefl _ (lt_span taken)

end Lane

namespace Layout

open Lane (span_le_iff lt_span)

variable {layout next : Layout} {node : Commit} {row : Row}

/-- The first branch is where the commit stands, and each further one adds a lane at most. -/
theorem Branching.span_lt {taken lanes : List Lane} {lane : Lane} (branching : Branching taken lane lanes)
    (some : lanes ≠ []) : span (taken ++ lanes) < max (span taken) (lane + 1) + lanes.length := by
  induction branching with
  | none => exact absurd rfl some
  | first =>
      rw [List.length_singleton, Nat.lt_succ_iff, span_le_iff, List.forall_mem_append]
      constructor
      · intro other member
        exact Nat.lt_of_lt_of_le (lt_span member) (Nat.le_max_left _ _)
      · intro other member
        rw [List.mem_singleton.mp member]
        exact Nat.le_max_right _ _
  | @next before other branching nonempty free ih =>
      have narrow := ih nonempty
      have widest : span (taken ++ (before ++ [other])) ≤ span (taken ++ before) + 1 := by
        rw [span_le_iff, ← List.append_assoc, List.forall_mem_append]
        constructor
        · intro earlier member
          exact Nat.lt_succ_of_lt (lt_span member)
        · intro last member
          rw [List.mem_singleton.mp member]
          exact Nat.lt_succ_of_le free.le_span
      rw [List.length_append, List.length_singleton]
      omega

theorem Settled.originWidth_eq (settled : layout.Settled) :
    layout.ledger.originWidth = span (layout.ledger.edges.map (·.origin)) := by
  rw [settled.counted, Lane.Ledger.originWidth_ofEdges, Lane.Ledger.edges_ofEdges]

theorem Laid.span_passing_le (laid : Laid layout node row next) :
    span (row.passing.map (·.origin)) ≤ span (layout.ledger.edges.map (·.origin)) := by
  rw [laid.passing_eq]
  exact Lane.span_mono ((List.filter_sublist).map _).subset

theorem Laid.originWidth_next (laid : Laid layout node row next) :
    next.ledger.originWidth = span (row.passing.map (·.origin) ++ row.parentLanes) := by
  rw [laid.ledger, Lane.Ledger.originWidth_ofEdges, List.map_append, map_origin_ownEdges laid.paired]

/-- The commit stands on a lane that is in use, if an edge leads to it, else on one past those at
most. -/
theorem Laid.span_below_le (laid : Laid layout node row next) :
    let below := max (span (row.passing.map (·.origin))) (row.lane + 1)
    let above := span (layout.ledger.edges.map (·.origin))
    below ≤ above + 1 ∧ ((∃ edge ∈ layout.ledger.edges, edge.target = node.id) → below ≤ above) := by
  intro below above
  have passing := laid.span_passing_le
  by_cases arrival : ∃ edge ∈ layout.ledger.edges, edge.target = node.id
  · obtain ⟨edge, inside, -, origin⟩ := laid.landing.arrives arrival
    have inUse : row.lane < above := lt_span (List.mem_map.mpr ⟨edge, inside, origin⟩)
    have narrow : below ≤ above := Nat.max_le.mpr ⟨passing, inUse⟩
    exact ⟨Nat.le_succ_of_le narrow, fun _ => narrow⟩
  · have free := laid.landing.free fun edge member same => arrival ⟨edge, member, same⟩
    have narrow : below ≤ above + 1 :=
      Nat.max_le.mpr ⟨Nat.le_succ_of_le passing, Nat.succ_le_succ free.le_span⟩
    exact ⟨narrow, fun leads => absurd leads arrival⟩

/-- One commit widens the open edges by as many lanes as it opens edges at most, by one less where
an edge led to it, and not at all where it opens none or is a repeat. -/
theorem widening_le_branches (window : Option Nat) (moves : List Move) (node : Commit) :
    let layout := after window moves
    let next := (layout.push node).2
    let branches := (layout.opened node).length
    let leads := ∃ edge ∈ layout.ledger.edges, edge.target = node.id
    (1 ≤ branches → leads → next.ledger.originWidth ≤ layout.ledger.originWidth + (branches - 1)) ∧
      (1 ≤ branches → ¬leads → next.ledger.originWidth ≤ layout.ledger.originWidth + branches) ∧
      (branches = 0 ∨ ¬layout.Accepts node → next.ledger.originWidth ≤ layout.ledger.originWidth) := by
  intro layout next branches leads
  have settled : layout.Settled := settled_after window moves
  have laid : Laid layout node (layout.push node).1 next := laid_push settled node
  have counted : branches = (layout.push node).1.parentLanes.length := by
    rw [← laid.greedy.lanes, List.length_map, ← laid.drop_edges]
    rfl
  obtain ⟨narrow, narrower⟩ := laid.span_below_le
  rw [laid.originWidth_next, settled.originWidth_eq, counted]
  have wider (opens : 1 ≤ (layout.push node).1.parentLanes.length) :=
    laid.branching.span_lt (List.ne_nil_of_length_pos opens)
  refine ⟨fun opens leads => ?_, fun opens _ => ?_, fun closed => ?_⟩
  · have := wider opens
    have := narrower leads
    omega
  · have := wider opens
    omega
  · have none : (layout.push node).1.parentLanes = [] := by
      rcases closed with none | repeated
      · exact List.eq_nil_of_length_eq_zero none
      · exact laid.parentLanes_of_repeat (by simpa [accepts_iff] using repeated)
    rw [none, List.append_nil]
    exact laid.span_passing_le

/-- A merge of four parents on the only lane in use takes three more lanes, and one that no edge
leads to all four. -/
theorem widening_le_branches_octopus :
    let layout := after none [.push (sampleNode 6 [5])]
    let merge := sampleNode 5 [4, 3, 2, 1]
    let other := sampleNode 7 [4, 3, 2, 1]
    ((layout.opened merge).length = 4 ∧ (∃ edge ∈ layout.ledger.edges, edge.target = merge.id) ∧
        (layout.push merge).2.ledger.originWidth ≤ layout.ledger.originWidth + 3) ∧
      ((layout.opened other).length = 4 ∧ (¬∃ edge ∈ layout.ledger.edges, edge.target = other.id) ∧
        (layout.push other).2.ledger.originWidth ≤ layout.ledger.originWidth + 4) ∧
      (¬layout.Accepts (sampleNode 6 [5]) ∧
        (layout.push (sampleNode 6 [5])).2.ledger.originWidth ≤ layout.ledger.originWidth) := by
  intro layout merge other
  have four : (layout.opened merge).length = 4 := by decide +kernel
  have leads : ∃ edge ∈ layout.ledger.edges, edge.target = merge.id := by decide +kernel
  have fourToo : (layout.opened other).length = 4 := by decide +kernel
  have apart : ¬∃ edge ∈ layout.ledger.edges, edge.target = other.id := by decide +kernel
  have repeated : ¬layout.Accepts (sampleNode 6 [5]) := by decide +kernel
  obtain ⟨led, -, -⟩ := widening_le_branches none [.push (sampleNode 6 [5])] merge
  obtain ⟨-, unled, -⟩ := widening_le_branches none [.push (sampleNode 6 [5])] other
  obtain ⟨-, -, closed⟩ := widening_le_branches none [.push (sampleNode 6 [5])] (sampleNode 6 [5])
  refine ⟨⟨four, leads, ?_⟩, ⟨fourToo, apart, ?_⟩, repeated, closed (.inr repeated)⟩
  · have narrow := led (by rw [four]; decide) leads
    rwa [four] at narrow
  · have narrow := unled (by rw [fourToo]; decide) apart
    rwa [fourToo] at narrow

end Layout

end CommitLanes
