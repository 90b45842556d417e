import CommitLanes.Lane.Ledger
import CommitLanes.Proofs.Lane.Tally

/-! The ledger answers as its plain list of edges does.

`Ledger.ofEdges` counts both tallies from nothing. Every change of a ledger is then a change
of the list, and every question a question to the list.
-/

set_option autoImplicit false

namespace CommitLanes

open Layout.Row (span)

def Edge.ledTo (lane : Lane) (edge : Edge) : Edge :=
  { edge with terminal := lane }

@[simp] theorem Edge.origin_ledTo (lane : Lane) (edge : Edge) : (edge.ledTo lane).origin = edge.origin := rfl
@[simp] theorem Edge.terminal_ledTo (lane : Lane) (edge : Edge) : (edge.ledTo lane).terminal = lane := rfl
@[simp] theorem Edge.target_ledTo (lane : Lane) (edge : Edge) : (edge.ledTo lane).target = edge.target := rfl
@[simp] theorem Edge.kind_ledTo (lane : Lane) (edge : Edge) : (edge.ledTo lane).kind = edge.kind := rfl

namespace Lane

theorem exists_split {α : Type} {items : List α} {place : Nat} {item : α} (found : items[place]? = some item) :
    ∃ front back, items = front ++ item :: back ∧ front.length = place := by
  obtain ⟨inside, same⟩ := List.getElem?_eq_some_iff.mp found
  refine ⟨items.take place, items.drop (place + 1), ?_, by simp; omega⟩
  rw [← same, List.getElem_cons_drop, List.take_append_drop]

structure FirstFree (taken : List Lane) (lane : Lane) : Prop where
  free : lane ∉ taken
  least : ∀ lower < lane, lower ∈ taken

/-- Only as many lanes can stand in front of a free one as are taken. -/
theorem FirstFree.le_length {taken : List Lane} {lane : Lane} (first : FirstFree taken lane) :
    lane ≤ taken.length := by
  have used : List.range lane ⊆ taken := fun lower inside => first.least lower (List.mem_range.mp inside)
  simpa using List.nodup_range.length_le_of_subset used

namespace Tally

theorem remove_of_perm {lanes rest : List Lane} {lane : Lane} (perm : lanes.Perm (lane :: rest)) :
    (ofLanes lanes).remove lane = ofLanes rest := by
  rw [remove_ofLanes]
  apply ofLanes_perm
  simpa using perm.erase lane

/-- Entries are taken back one after another. -/
theorem foldl_remove {α : Type} (laneOf : α → Lane) (closed : List α) {lanes rest : List Lane}
    (perm : lanes.Perm (closed.map laneOf ++ rest)) :
    closed.foldl (fun tally item => tally.remove (laneOf item)) (ofLanes lanes) = ofLanes rest := by
  induction closed generalizing lanes with
  | nil => exact ofLanes_perm perm
  | cons item closed ih =>
      rw [List.foldl_cons, remove_of_perm perm]
      exact ih (List.Perm.refl _)

end Tally

namespace Ledger

def ofEdges (edges : List Edge) : Ledger :=
  ⟨edges, .ofLanes (edges.map (·.origin)), .ofLanes (edges.map (·.terminal))⟩

@[simp] theorem edges_ofEdges (edges : List Edge) : (ofEdges edges).edges = edges := rfl

theorem empty_eq : empty = ofEdges [] := rfl

section Changes

theorem add_ofEdges (edges : List Edge) (lane : Lane) (target : ObjectId) (kind : Edge.Kind) :
    (ofEdges edges).add lane target kind = (edges.length, ofEdges (edges ++ [Edge.straight lane target kind])) := by
  have entered : ∀ lanes : List Lane, (Tally.ofLanes lanes).add lane = .ofLanes (lanes ++ [lane]) :=
    fun lanes => Tally.ofLanes_perm (List.perm_append_singleton lane lanes).symm
  simp only [add, ofEdges, entered, List.map_append, List.map_singleton, Edge.straight]
  rfl

theorem eraseAt_ofEdges (edges : List Edge) (place : Nat) :
    (ofEdges edges).eraseAt place = ofEdges (edges.eraseIdx place) := by
  unfold eraseAt
  split
  next none =>
    have outside : edges.length ≤ place := List.getElem?_eq_none_iff.mp none
    rw [List.eraseIdx_of_length_le outside]
  next edge found =>
    obtain ⟨front, back, rfl, rfl⟩ := exists_split found
    have closed : ∀ lane : Edge → Lane,
        (Tally.ofLanes ((front ++ edge :: back).map lane)).remove (lane edge) =
          .ofLanes ((front ++ back).map lane) := fun lane =>
      Tally.remove_of_perm (List.perm_middle.map lane)
    have erased : (front ++ edge :: back).eraseIdx front.length = front ++ back := by
      simp [List.eraseIdx_append_of_length_le]
    simp only [ofEdges, erased]
    rw [closed, closed]

theorem converge_ofEdges (edges : List Edge) (place : Nat) (lane : Lane) :
    (ofEdges edges).converge place lane = ofEdges (edges.modify place (Edge.ledTo lane)) := by
  unfold converge
  split
  next none =>
    have outside : edges.length ≤ place := List.getElem?_eq_none_iff.mp none
    rw [List.modify_eq_self outside]
  next edge found =>
    obtain ⟨front, back, rfl, rfl⟩ := exists_split found
    have led : (front ++ edge :: back).modify front.length (Edge.ledTo lane) =
        front ++ edge.ledTo lane :: back := by
      simp [List.modify_eq_take_cons_drop]
    have left : (Tally.ofLanes ((front ++ edge :: back).map (·.terminal))).remove edge.terminal =
        .ofLanes ((front ++ back).map (·.terminal)) :=
      Tally.remove_of_perm (List.perm_middle.map _)
    have entered : (Tally.ofLanes ((front ++ back).map (·.terminal))).add lane =
        .ofLanes ((front ++ edge.ledTo lane :: back).map (·.terminal)) := by
      rw [Tally.add_ofLanes]
      apply Tally.ofLanes_perm
      simpa using List.perm_middle.symm
    rw [led]
    simp only [ofEdges, left, entered]
    simp [Edge.ledTo]

theorem clear_ofEdges (edges : List Edge) (lane : Lane) :
    (ofEdges edges).clear lane =
      ((edges.filter fun edge => edge.origin = lane).length,
        ofEdges (edges.filter fun edge => edge.origin ≠ lane)) := by
  unfold clear
  split
  next none =>
    have absent : ∀ edge ∈ edges, edge.origin ≠ lane := by
      simpa [originsAt, ofEdges, List.count_eq_zero] using none
    have closed : edges.filter (fun edge => edge.origin = lane) = [] :=
      List.filter_eq_nil_iff.mpr fun edge member => by simpa using absent edge member
    have kept : edges.filter (fun edge => edge.origin ≠ lane) = edges :=
      List.filter_eq_self.mpr fun edge member => by simpa using absent edge member
    rw [closed, kept, List.length_nil]
  next =>
    -- The edges end on lanes of their own choice, so the second tally goes edge by edge.
    have parts : (edges.filter (fun edge => edge.origin = lane) ++
        edges.filter fun edge => edge.origin ≠ lane).Perm edges := by
      simpa using List.filter_append_perm (fun edge => decide (edge.origin = lane)) edges
    have sameLane : (edges.filter fun edge => edge.origin = lane).map (fun _ => lane) =
        (edges.filter fun edge => edge.origin = lane).map (·.origin) :=
      List.map_congr_left fun edge member => (of_decide_eq_true (List.mem_filter.mp member).2).symm
    have origins : (edges.filter fun edge => edge.origin = lane).foldl (fun tally _ => tally.remove lane)
        (Tally.ofLanes (edges.map (·.origin))) =
          .ofLanes ((edges.filter fun edge => edge.origin ≠ lane).map (·.origin)) := by
      apply Tally.foldl_remove (fun _ => lane)
      rw [sameLane, ← List.map_append]
      exact (parts.map _).symm
    have terminals : (edges.filter fun edge => edge.origin = lane).foldl
        (fun tally edge => tally.remove edge.terminal) (Tally.ofLanes (edges.map (·.terminal))) =
          .ofLanes ((edges.filter fun edge => edge.origin ≠ lane).map (·.terminal)) := by
      apply Tally.foldl_remove Edge.terminal
      rw [← List.map_append]
      exact (parts.map _).symm
    simp only [ofEdges, origins, terminals]

end Changes

section Questions

@[simp] theorem originsAt_ofEdges (edges : List Edge) (lane : Lane) :
    (ofEdges edges).originsAt lane = (edges.map (·.origin)).count lane :=
  Tally.count_ofLanes _ lane

@[simp] theorem terminalsAt_ofEdges (edges : List Edge) (lane : Lane) :
    (ofEdges edges).terminalsAt lane = (edges.map (·.terminal)).count lane :=
  Tally.count_ofLanes _ lane

@[simp] theorem originWidth_ofEdges (edges : List Edge) :
    (ofEdges edges).originWidth = span (edges.map (·.origin)) :=
  Tally.width_ofLanes _

@[simp] theorem terminalWidth_ofEdges (edges : List Edge) :
    (ofEdges edges).terminalWidth = span (edges.map (·.terminal)) :=
  Tally.width_ofLanes _

theorem isFree_ofEdges (edges : List Edge) (lane : Lane) :
    (ofEdges edges).isFree lane = true ↔ lane ∉ edges.map (·.origin) ∧ lane ∉ edges.map (·.terminal) := by
  simp only [isFree, originsAt_ofEdges, terminalsAt_ofEdges, Bool.and_eq_true, decide_eq_true_eq,
    List.count_eq_zero]

theorem isFree_of_width_le (edges : List Edge) {lane : Lane}
    (outside : max (ofEdges edges).originWidth (ofEdges edges).terminalWidth ≤ lane) :
    (ofEdges edges).isFree lane = true := by
  rw [originWidth_ofEdges, terminalWidth_ofEdges, Nat.max_le] at outside
  rw [isFree_ofEdges]
  exact ⟨fun member => Nat.not_lt.mpr outside.1 (lt_span member),
    fun member => Nat.not_lt.mpr outside.2 (lt_span member)⟩

/-- The search ends at the first lane that is free, also when that is the one behind all. -/
theorem firstFree_ofEdges (edges : List Edge) :
    FirstFree (edges.map (·.origin) ++ edges.map (·.terminal)) (ofEdges edges).lowestFreeLane := by
  have vacant : ∀ lane, (ofEdges edges).isFree lane = true ↔
      lane ∉ edges.map (·.origin) ++ edges.map (·.terminal) := fun lane => by
    rw [isFree_ofEdges, List.mem_append, not_or]
  have occupied : ∀ lane, (!(ofEdges edges).isFree lane) = true →
      lane ∈ edges.map (·.origin) ++ edges.map (·.terminal) := by
    intro lane taken
    by_contra absent
    simp [(vacant lane).mpr absent] at taken
  simp only [lowestFreeLane]
  cases found : (List.range (max (ofEdges edges).originWidth (ofEdges edges).terminalWidth)).find?
      (ofEdges edges).isFree with
  | none =>
      rw [List.find?_range_eq_none] at found
      exact ⟨(vacant _).mp (isFree_of_width_le edges (Nat.le_refl _)),
        fun lower inside => occupied lower (found lower inside)⟩
  | some place =>
      obtain ⟨free, -, taken⟩ := List.find?_range_eq_some.mp found
      exact ⟨(vacant place).mp free, fun lower inside => occupied lower (taken lower inside)⟩

theorem firstFree_of_straight {edges : List Edge} (straight : ∀ edge ∈ edges, edge.terminal = edge.origin) :
    FirstFree (edges.map (·.origin)) (ofEdges edges).lowestFreeLane := by
  have ends : edges.map (·.terminal) = edges.map (·.origin) := List.map_congr_left straight
  have first := firstFree_ofEdges edges
  rw [ends] at first
  exact ⟨fun member => first.free (List.mem_append_left _ member),
    fun lower inside => (List.mem_append.mp (first.least lower inside)).elim id id⟩

theorem mem_targeting_ofEdges (edges : List Edge) (target : ObjectId) (place : Nat) :
    place ∈ (ofEdges edges).targeting target ↔ edges[place]?.map (·.target) = some target := by
  simp only [targeting, size, edges_ofEdges, List.mem_filter, List.mem_range, decide_eq_true_eq,
    and_iff_right_iff_imp, Option.map_eq_some_iff]
  rintro ⟨edge, found, -⟩
  exact (List.getElem?_eq_some_iff.mp found).1

end Questions

end Ledger

end Lane

end CommitLanes
