import CommitLanes.Lane.Tally
import CommitLanes.Layout.Row
import Mathlib.Tactic.ByContra

/-! A tally is a recount of the lanes that were entered into it.

Without trailing zeros a tally is determined by its counts, so the order of the entries is
forgotten and an entry that is taken back leaves nothing behind. The width is then the span of
the lanes in use.
-/

set_option autoImplicit false

namespace CommitLanes.Lane

open Layout.Row (span)

theorem foldl_max_le_iff {α : Type} (size : α → Nat) (items : List α) (start bound : Nat) :
    items.foldl (fun most item => max most (size item)) start ≤ bound ↔
      start ≤ bound ∧ ∀ item ∈ items, size item ≤ bound := by
  induction items generalizing start with
  | nil => simp
  | cons item rest ih => rw [List.foldl_cons, ih, Nat.max_le, List.forall_mem_cons, and_assoc]

theorem span_le_iff (lanes : List Lane) (width : Nat) : span lanes ≤ width ↔ ∀ lane ∈ lanes, lane < width := by
  rw [span, foldl_max_le_iff fun lane : Lane => lane + 1]
  simp only [Nat.zero_le, true_and, Nat.succ_le_iff]

theorem lt_span {lanes : List Lane} {lane : Lane} (member : lane ∈ lanes) : lane < span lanes :=
  (span_le_iff lanes (span lanes)).mp (Nat.le_refl _) lane member

theorem length_le_span {lanes : List Lane} (distinct : lanes.Nodup) : lanes.length ≤ span lanes := by
  have inside : lanes ⊆ List.range (span lanes) :=
    fun lane member => List.mem_range.mpr (lt_span member)
  simpa using distinct.length_le_of_subset inside

namespace Tally

/-- Nothing stands behind the last lane in use. -/
def Trimmed (counts : List Nat) : Prop :=
  counts.getLast? ≠ some 0

theorem trimmed_nil : Trimmed [] := by
  simp [Trimmed]

theorem trimmed_cons (count : Nat) (rest : List Nat) :
    Trimmed (count :: rest) ↔ Trimmed rest ∧ (rest = [] → count ≠ 0) := by
  cases rest <;> simp [Trimmed]

theorem increase_ne_nil (counts : List Nat) (lane : Lane) : increase counts lane ≠ [] := by
  fun_cases increase counts lane <;> simp

theorem trimmed_increase {counts : List Nat} (trim : Trimmed counts) (lane : Lane) :
    Trimmed (increase counts lane) := by
  fun_induction increase counts lane with
  | case1 => simp [Trimmed]
  | case2 lane ih => exact (trimmed_cons _ _).mpr ⟨ih trim, fun empty => absurd empty (increase_ne_nil _ _)⟩
  | case3 count rest => exact (trimmed_cons _ _).mpr ⟨((trimmed_cons _ _).mp trim).1, by simp⟩
  | case4 count rest lane ih =>
      exact (trimmed_cons _ _).mpr
        ⟨ih ((trimmed_cons _ _).mp trim).1, fun empty => absurd empty (increase_ne_nil _ _)⟩

theorem trimmed_trimmed {rest : List Nat} (trim : Trimmed rest) (count : Nat) : Trimmed (trimmed count rest) := by
  unfold trimmed
  split
  next => exact trimmed_nil
  next used => exact (trimmed_cons _ _).mpr ⟨trim, fun empty zero => used ⟨zero, empty⟩⟩

theorem trimmed_decrease {counts : List Nat} (trim : Trimmed counts) (lane : Lane) :
    Trimmed (decrease counts lane) := by
  fun_induction decrease counts lane with
  | case1 => exact trim
  | case2 count rest => exact trimmed_trimmed ((trimmed_cons _ _).mp trim).1 _
  | case3 count rest lane ih => exact trimmed_trimmed (ih ((trimmed_cons _ _).mp trim).1) _

theorem last_ne_zero {counts : List Nat} (trim : Trimmed counts) (used : counts ≠ []) :
    counts[counts.length - 1]?.getD 0 ≠ 0 := by
  rw [← List.getLast?_eq_getElem?]
  intro zero
  rw [List.getLast?_eq_some_getLast used] at zero
  exact trim (by rw [List.getLast?_eq_some_getLast used]; simpa using zero)

theorem eq_nil_of_zeros {counts : List Nat} (trim : Trimmed counts)
    (zeros : ∀ lane : Lane, counts[lane]?.getD 0 = 0) : counts = [] := by
  by_contra used
  exact last_ne_zero trim used (zeros _)

theorem eq_of_counts {first second : List Nat} (left : Trimmed first) (right : Trimmed second)
    (same : ∀ lane : Lane, first[lane]?.getD 0 = second[lane]?.getD 0) : first = second := by
  induction first generalizing second with
  | nil => exact (eq_nil_of_zeros right fun lane => by simpa using (same lane).symm).symm
  | cons count rest ih =>
      cases second with
      | nil => exact eq_nil_of_zeros left fun lane => by simpa using same lane
      | cons other tail =>
          have head : count = other := by simpa using same 0
          have equal := ih ((trimmed_cons _ _).mp left).1 ((trimmed_cons _ _).mp right).1
            fun lane => by simpa using same (lane + 1)
          rw [head, equal]

def ofLanes : List Lane → Tally
  | [] => empty
  | lane :: rest => (ofLanes rest).add lane

theorem trimmed_ofLanes (lanes : List Lane) : Trimmed (ofLanes lanes).counts := by
  induction lanes with
  | nil => exact trimmed_nil
  | cons lane rest ih => exact trimmed_increase ih lane

@[simp] theorem count_ofLanes (lanes : List Lane) (lane : Lane) :
    (ofLanes lanes).count lane = lanes.count lane := by
  induction lanes with
  | nil => simp [ofLanes, empty, count]
  | cons first rest ih =>
      rw [ofLanes, count_add, ih, List.count_cons]
      by_cases same : lane = first
      · simp [same]
      · simp [same, Ne.symm same]

theorem eq_ofLanes {tally : Tally} {lanes : List Lane} (trim : Trimmed tally.counts)
    (counted : ∀ lane, tally.count lane = lanes.count lane) : tally = ofLanes lanes := by
  have same := eq_of_counts trim (trimmed_ofLanes lanes) fun lane =>
    (counted lane).trans (count_ofLanes lanes lane).symm
  cases tally
  exact congrArg Tally.mk same

theorem ofLanes_perm {first second : List Lane} (perm : first.Perm second) : ofLanes first = ofLanes second :=
  eq_ofLanes (trimmed_ofLanes first) fun lane => by rw [count_ofLanes, perm.count_eq]

theorem add_ofLanes (lanes : List Lane) (lane : Lane) : (ofLanes lanes).add lane = ofLanes (lane :: lanes) :=
  rfl

theorem remove_ofLanes (lanes : List Lane) (lane : Lane) :
    (ofLanes lanes).remove lane = ofLanes (lanes.erase lane) := by
  apply eq_ofLanes (show Trimmed ((ofLanes lanes).remove lane).counts from
    trimmed_decrease (trimmed_ofLanes lanes) lane)
  intro other
  rw [count_remove, count_ofLanes, List.count_erase]
  by_cases same : other = lane
  · simp [same]
  · simp [same, Ne.symm same]

theorem width_ofLanes (lanes : List Lane) : (ofLanes lanes).width = span lanes := by
  apply Nat.le_antisymm
  · -- The last count is not zero, so its lane is in use, and no lane in use lies outside the span.
    by_contra wider
    have used : (ofLanes lanes).counts ≠ [] := by
      intro none
      simp [width, none] at wider
    have last := last_ne_zero (trimmed_ofLanes lanes) used
    have member : (ofLanes lanes).width - 1 ∈ lanes := by
      rw [← List.count_pos_iff, ← count_ofLanes]
      exact Nat.pos_of_ne_zero last
    have inside : (ofLanes lanes).width - 1 < span lanes := lt_span member
    omega
  · rw [span_le_iff]
    intro lane member
    by_contra outside
    have positive : 0 < (ofLanes lanes).count lane := by
      rw [count_ofLanes]
      exact List.count_pos_iff.mpr member
    rw [count, List.getElem?_eq_none (Nat.le_of_not_lt outside)] at positive
    exact Nat.lt_irrefl 0 positive

end Tally

end CommitLanes.Lane
