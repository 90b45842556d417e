import CommitLanes.Lane.Gauge
import CommitLanes.Proofs.Lane.Refinement

/-! The tables of a ledger count as its tallies do.

Cut off at its mark a table is the tally. What matters is that the mark never points behind the table
and has only empty lanes above it: lowering it then reads no place that is not there, and stops
where the tally ends.
-/

set_option autoImplicit false

namespace CommitLanes.Lane

namespace Tally

theorem length_increase (counts : List Nat) (lane : Lane) :
    (increase counts lane).length = max counts.length (lane + 1) := by
  fun_induction increase counts lane with
  | case1 => rfl
  | case2 lane ih => simp [ih]
  | case3 count rest => simp
  | case4 count rest lane ih => simp [ih]

theorem length_trimmed_le (count : Nat) (rest : List Nat) : (trimmed count rest).length ≤ rest.length + 1 := by
  unfold trimmed
  split
  · exact Nat.zero_le _
  · exact Nat.le_refl _

theorem length_decrease_le (counts : List Nat) (lane : Lane) : (decrease counts lane).length ≤ counts.length := by
  fun_induction decrease counts lane with
  | case1 => exact Nat.le_refl _
  | case2 count rest => exact length_trimmed_le _ rest
  | case3 count rest lane ih => exact Nat.le_trans (length_trimmed_le _ _) (Nat.succ_le_succ ih)

theorem count_of_width_le {tally : Tally} {lane : Lane} (outside : tally.width ≤ lane) : tally.count lane = 0 := by
  rw [count, List.getElem?_eq_none outside, Option.getD_none]

theorem count_le_foldl_add (made : List Lane) (tally : Tally) (lane : Lane) :
    tally.count lane ≤ (made.foldl add tally).count lane := by
  induction made generalizing tally with
  | nil => exact Nat.le_refl _
  | cons first made ih =>
      refine Nat.le_trans ?_ (ih (tally.add first))
      rw [count_add]
      exact Nat.le_add_right _ _

end Tally

namespace Gauge

structure Mirrors (gauge : Gauge) (tally : Tally) : Prop where
  count : ∀ lane, gauge.count lane = tally.count lane
  mark : gauge.mark = tally.width
  inside : gauge.mark ≤ gauge.counts.length
  trimmed : Tally.Trimmed tally.counts

variable {gauge : Gauge} {tally left : Tally} {counts : List Nat} {lane : Lane}

theorem mirrors_empty : empty.Mirrors .empty where
  count _ := rfl
  mark := rfl
  inside := Nat.le_refl _
  trimmed := Tally.trimmed_nil

theorem getElem?_reaching (counts : List Nat) (lane other : Lane) :
    (reaching counts lane)[other]?.getD 0 = counts[other]?.getD 0 := by
  unfold reaching
  split
  · rcases Nat.lt_or_ge other counts.length with inside | outside
    · rw [List.getElem?_append_left inside]
    · rw [List.getElem?_append_right outside, List.getElem?_eq_none outside, List.getElem?_replicate]
      split <;> rfl
  · rfl

theorem length_reaching (counts : List Nat) (lane : Lane) :
    (reaching counts lane).length = max counts.length (lane + 1) := by
  unfold reaching
  split
  · simp only [List.length_append, List.length_replicate]
    omega
  · omega

theorem lt_length_reaching (counts : List Nat) (lane : Lane) : lane < (reaching counts lane).length := by
  rw [length_reaching]
  exact Nat.lt_of_lt_of_le (Nat.lt_succ_self lane) (Nat.le_max_right _ _)

theorem getElem?_set_reaching (counts : List Nat) (lane other : Lane) (count : Nat) :
    ((reaching counts lane).set lane count)[other]?.getD 0 =
      if lane = other then count else counts[other]?.getD 0 := by
  rw [List.getElem?_set]
  by_cases same : lane = other
  · subst same
    rw [if_pos rfl, if_pos (lt_length_reaching counts lane), if_pos rfl, Option.getD_some]
  · rw [if_neg same, if_neg same, getElem?_reaching]

theorem getElem?_lower (counts : List Nat) (lane other : Lane) :
    (counts.modify lane (· - 1))[other]?.getD 0 =
      if lane = other then counts[other]?.getD 0 - 1 else counts[other]?.getD 0 := by
  rw [List.getElem?_modify]
  by_cases same : lane = other
  · cases counts[other]? <;> simp [same]
  · simp [same]

theorem bump?_mirrors (mirrors : gauge.Mirrors tally) (room : tally.count lane + 1 < UInt32.size) :
    ∃ after, gauge.bump? lane = some after ∧ after.Mirrors (tally.add lane) := by
  have found : (reaching gauge.counts lane)[lane]? = some (tally.count lane) := by
    rw [← mirrors.count, count, ← getElem?_reaching _ lane, List.getElem?_eq_getElem (lt_length_reaching _ lane),
      Option.getD_some]
  refine ⟨⟨(reaching gauge.counts lane).set lane (tally.count lane + 1), max gauge.mark (lane + 1)⟩, ?_, ?_⟩
  · simp only [bump?, found, Option.bind_eq_bind, Option.bind_some, if_pos room]
    rfl
  · refine ⟨fun other => ?_, ?_, ?_, Tally.trimmed_increase mirrors.trimmed lane⟩
    · rw [Tally.count_add, ← mirrors.count other, count, count, getElem?_set_reaching]
      by_cases same : lane = other
      · rw [if_pos same, if_pos same.symm, ← mirrors.count, count, same]
      · rw [if_neg same, if_neg (Ne.symm same), Nat.add_zero]
    · rw [Tally.width, Tally.add, Tally.length_increase, mirrors.mark, Tally.width]
    · rw [List.length_set, length_reaching]
      exact Nat.max_le.mpr
        ⟨Nat.le_trans mirrors.inside (Nat.le_max_left _ _), Nat.le_max_right _ _⟩

/-- The mark comes down to where the counts end that are not zero. -/
theorem lowered?_eq {mark width : Nat} (inside : mark ≤ counts.length) (below : width ≤ mark)
    (empty : ∀ lane, width ≤ lane → counts[lane]?.getD 0 = 0)
    (used : width ≠ 0 → counts[width - 1]?.getD 0 ≠ 0) : lowered? counts mark = some width := by
  induction mark with
  | zero =>
      rw [Nat.le_zero.mp below]
      rfl
  | succ mark ih =>
      have here : counts[mark]? = some (counts[mark]?.getD 0) := by
        rw [List.getElem?_eq_getElem inside, Option.getD_some]
      rw [lowered?, here]
      rcases Nat.lt_or_eq_of_le below with lower | rfl
      · have within := Nat.le_of_lt_succ lower
        simp only [Option.bind_eq_bind, Option.bind_some, empty mark within, if_true]
        exact ih (Nat.le_of_succ_le inside) within
      · have full : counts[mark]?.getD 0 ≠ 0 := used (Nat.succ_ne_zero mark)
        simp only [Option.bind_eq_bind, Option.bind_some, if_neg full]
        rfl

theorem drop?_mirrors (mirrors : gauge.Mirrors tally) (lane : Lane) :
    ∃ after, gauge.drop? lane = some after ∧ after.Mirrors (tally.remove lane) := by
  have counted : ∀ other, (gauge.counts.modify lane (· - 1))[other]?.getD 0 = (tally.remove lane).count other := by
    intro other
    rw [Tally.count_remove, ← mirrors.count other, count, getElem?_lower]
    by_cases same : lane = other
    · rw [if_pos same, if_pos same.symm]
    · rw [if_neg same, if_neg (Ne.symm same), Nat.sub_zero]
  have trimmed : Tally.Trimmed (tally.remove lane).counts := Tally.trimmed_decrease mirrors.trimmed lane
  have below : (tally.remove lane).width ≤ gauge.mark := by
    rw [mirrors.mark]
    exact Tally.length_decrease_le tally.counts lane
  have inside : gauge.mark ≤ (gauge.counts.modify lane (· - 1)).length := by
    rw [List.length_modify]
    exact mirrors.inside
  have lowered : lowered? (gauge.counts.modify lane (· - 1)) gauge.mark = some (tally.remove lane).width := by
    apply lowered?_eq inside below
    · intro other outside
      rw [counted]
      exact Tally.count_of_width_le outside
    · intro some
      rw [counted]
      exact Tally.last_ne_zero trimmed fun none => some (congrArg List.length none)
  refine ⟨⟨gauge.counts.modify lane (· - 1), (tally.remove lane).width⟩, ?_, counted, rfl, ?_, trimmed⟩
  · simp [drop?, lowered]
  · exact Nat.le_trans below inside

section Turns

def takeBack? : Gauge → List Lane → Option Gauge
  | gauge, [] => some gauge
  | gauge, lane :: rest =>
      if gauge.count lane = 0 then none else (gauge.drop? lane).bind fun left => left.takeBack? rest

def turn? (gauge : Gauge) (turnover : Tally.Turnover) : Option Gauge :=
  (gauge.takeBack? turnover.gone).bind fun left => turnover.made.foldlM bump? left

theorem takeBack?_mirrors {gone : List Lane} (mirrors : gauge.Mirrors tally) (taken : tally.takeBack gone = some left) :
    ∃ after, gauge.takeBack? gone = some after ∧ after.Mirrors left := by
  induction gone generalizing gauge tally with
  | nil =>
      cases taken
      exact ⟨gauge, rfl, mirrors⟩
  | cons lane gone ih =>
      rw [Tally.takeBack] at taken
      split at taken
      · cases taken
      next full =>
        obtain ⟨next, dropped, mirrors'⟩ := drop?_mirrors mirrors lane
        rw [takeBack?, mirrors.count, if_neg full, dropped, Option.bind_some]
        exact ih mirrors' taken

theorem foldlM_bump?_mirrors {made : List Lane} (mirrors : gauge.Mirrors tally)
    (few : ∀ lane, (made.foldl Tally.add tally).count lane < UInt32.size) :
    ∃ after, made.foldlM bump? gauge = some after ∧ after.Mirrors (made.foldl Tally.add tally) := by
  induction made generalizing gauge tally with
  | nil => exact ⟨gauge, rfl, mirrors⟩
  | cons lane made ih =>
      have room : tally.count lane + 1 < UInt32.size := by
        have most := Nat.lt_of_le_of_lt (Tally.count_le_foldl_add made (tally.add lane) lane) (few lane)
        rwa [Tally.count_add, if_pos rfl] at most
      obtain ⟨next, bumped, mirrors'⟩ := bump?_mirrors mirrors room
      rw [List.foldlM_cons, bumped]
      exact ih mirrors' few

theorem turn?_mirrors {turnover : Tally.Turnover} {after : Tally} (mirrors : gauge.Mirrors tally)
    (turned : tally.turn turnover = some after) (few : ∀ lane, after.count lane < UInt32.size) :
    ∃ gauge', gauge.turn? turnover = some gauge' ∧ gauge'.Mirrors after := by
  obtain ⟨left, taken, rfl⟩ := Option.map_eq_some_iff.mp turned
  obtain ⟨next, taken', mirrors'⟩ := takeBack?_mirrors mirrors taken
  rw [turn?, taken', Option.bind_some]
  exact foldlM_bump?_mirrors mirrors' few

end Turns

end Gauge

end CommitLanes.Lane
