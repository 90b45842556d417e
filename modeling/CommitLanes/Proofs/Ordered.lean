import CommitLanes.Ordered
import Mathlib.Data.List.Nodup
import Mathlib.Order.Compare

/-! Lists that are sorted and rid of repeats.

Repeats are looked for side by side, which finds them all where the order tells different elements
apart. The list that comes out is then strictly increasing, and only one list of these elements is.
-/

set_option autoImplicit false

namespace CommitLanes.Ordered

variable {α : Type} {order : α → α → Ordering} {items others : List α}

/-- The order takes no two of these elements for equal. -/
def Separates (order : α → α → Ordering) (items : List α) : Prop :=
  ∀ a ∈ items, ∀ b ∈ items, order a b = .eq → a = b

theorem Separates.tail {first : α} (separates : Separates order (first :: items)) : Separates order items :=
  fun a inside b within => separates a (.tail _ inside) b (.tail _ within)

variable [Std.TransCmp order]

theorem pairwise_sort (order : α → α → Ordering) [Std.TransCmp order] (items : List α) :
    (sort order items).Pairwise fun a b => (order a b).isLE = true := by
  apply List.pairwise_mergeSort
  · exact fun a b c => Std.TransCmp.isLE_trans
  · intro a b
    have swapped : order b a = (order a b).swap := Std.OrientedCmp.eq_swap
    rw [swapped]
    cases order a b <;> rfl

theorem nodup_of_pairwise_lt (increasing : items.Pairwise fun a b => order a b = .lt) : items.Nodup := by
  refine increasing.imp fun {a b} before same => ?_
  have equal : order b b = .eq := Std.ReflCmp.compare_self
  rw [same, equal] at before
  cases before

theorem eq_of_pairwise_lt (increasing : items.Pairwise fun a b => order a b = .lt)
    (rising : others.Pairwise fun a b => order a b = .lt) (same : ∀ a, a ∈ items ↔ a ∈ others) : items = others := by
  have perm : items.Perm others :=
    (List.perm_ext_iff_of_nodup (nodup_of_pairwise_lt increasing) (nodup_of_pairwise_lt rising)).mpr same
  have oneWay : ∀ a b, a ∈ items → b ∈ others → order a b = .lt → order b a = .lt → a = b :=
    fun a b _ _ before behind => absurd behind (Std.OrientedCmp.not_lt_of_lt before)
  exact perm.eq_of_pairwise oneWay increasing rising

section Strict

variable [DecidableEq α]

theorem pairwise_distinct (sorted : items.Pairwise fun a b => (order a b).isLE = true)
    (separates : Separates order items) : (distinct items).Pairwise fun a b => order a b = .lt := by
  fun_induction distinct items with
  | case1 => exact .nil
  | case2 => exact List.pairwise_singleton ..
  | case3 first rest ih => exact ih sorted.tail separates.tail
  | case4 first second rest different ih =>
      obtain ⟨least, sorted⟩ := List.pairwise_cons.mp sorted
      have before : order first second = .lt := by
        cases compared : order first second with
        | lt => rfl
        | eq => exact absurd (separates first (by simp) second (by simp) compared) different
        | gt =>
            have le := least second (by simp)
            rw [compared] at le
            cases le
      refine List.pairwise_cons.mpr ⟨fun later member => ?_, ih sorted separates.tail⟩
      rcases List.mem_cons.mp ((mem_distinct _).mp member) with rfl | behind
      · exact before
      · exact Std.TransCmp.lt_of_lt_of_isLE before ((List.pairwise_cons.mp sorted).1 later behind)

theorem pairwise_distinct_sort (separates : Separates order items) :
    (distinct (sort order items)).Pairwise fun a b => order a b = .lt := by
  apply pairwise_distinct (pairwise_sort order items)
  intro a inside b within
  exact separates a ((mem_sort _).mp inside) b ((mem_sort _).mp within)

end Strict

end CommitLanes.Ordered
