import CommitLanes.Proofs.Text.Utf8
import Mathlib.Data.Char
import Mathlib.Tactic.SplitIfs

/-! Texts are in the order of their bytes.

The first byte of a character grows with the number of its bytes, and among characters of one
length the bytes are digits with the top ones first. So whoever compares bytes compares code points.
-/

set_option autoImplicit false

namespace CommitLanes

section Bytes

theorem compare_ofNat {m n : Nat} (small : m < 256) (little : n < 256) :
    compare (UInt8.ofNat m) (UInt8.ofNat n) = compare m n := by
  have byte : compare (UInt8.ofNat m) (UInt8.ofNat n) = compareOfLessAndEq (UInt8.ofNat m) (UInt8.ofNat n) := rfl
  have number : compare m n = compareOfLessAndEq m n := rfl
  rw [byte, number]
  simp only [compareOfLessAndEq, UInt8.lt_iff_toNat_lt, ← UInt8.toNat_inj, Utf8.toNat_ofNat small,
    Utf8.toNat_ofNat little]

theorem compare_append_left (common s t : Bytes) : compare (common ++ s) (common ++ t) = compare s t := by
  induction common with
  | nil => rfl
  | cons first rest ih =>
      have same : compare first first = .eq := Std.ReflOrd.compare_self
      rw [List.cons_append, List.cons_append, List.compare_cons_cons, same, Ordering.eq_then, ih]

theorem compare_cons_eq_lt {m n : Nat} {s t : Bytes} (small : m < 256) (little : n < 256) :
    compare (UInt8.ofNat m :: s) (UInt8.ofNat n :: t) = .lt ↔ m < n ∨ m = n ∧ compare s t = .lt := by
  rw [List.compare_cons_cons, compare_ofNat small little, Ordering.then_eq_lt, Nat.compare_eq_lt, Nat.compare_eq_eq]

end Bytes

namespace Text

variable {c d : Char}

theorem toNat_val_lt (c : Char) : c.val.toNat < 0x110000 := by
  rcases c.valid with low | high
  · exact Nat.lt_trans low (by decide)
  · exact high.2

theorem compare_utf8EncodeChar_of_lt (before : c < d) (s t : Bytes) :
    compare (String.utf8EncodeChar c ++ s) (String.utf8EncodeChar d ++ t) = .lt := by
  have top := toNat_val_lt c
  have limit := toNat_val_lt d
  have below : c.val.toNat < d.val.toNat := before
  unfold String.utf8EncodeChar
  generalize c.val.toNat = v at *
  generalize d.val.toNat = w at *
  -- Digits of six bits, each a part of the number in front of it.
  have twelve : ∀ n : Nat, n / 4096 = n / 64 / 64 := fun n => by omega
  have eighteen : ∀ n : Nat, n / 262144 = n / 64 / 64 / 64 := fun n => by omega
  simp only [twelve, eighteen]
  -- The later character has as many bytes or more. With more the first byte decides.
  split_ifs
  all_goals try omega
  all_goals
    simp (disch := omega) only [List.cons_append, List.nil_append, compare_cons_eq_lt]
    omega

theorem exists_utf8EncodeChar (c : Char) : ∃ (first : UInt8) (more : Bytes), String.utf8EncodeChar c = first :: more := by
  unfold String.utf8EncodeChar
  simp only []
  split_ifs <;> exact ⟨_, _, rfl⟩

theorem compare_utf8EncodeChar (c d : Char) (s t : Bytes) :
    compare (String.utf8EncodeChar c ++ s) (String.utf8EncodeChar d ++ t) = (compare c d).then (compare s t) := by
  rcases lt_trichotomy c d with before | rfl | behind
  · rw [compare_utf8EncodeChar_of_lt before, compare_lt_iff_lt.mpr before, Ordering.lt_then]
  · rw [compare_append_left, compare_eq_iff_eq.mpr rfl, Ordering.eq_then]
  · have swapped : compare (String.utf8EncodeChar c ++ s) (String.utf8EncodeChar d ++ t) = .gt :=
      Std.OrientedCmp.gt_of_lt (compare_utf8EncodeChar_of_lt behind t s)
    rw [swapped, compare_gt_iff_gt.mpr behind, Ordering.gt_then]

theorem utf8_cons (c : Char) (text : Text) : utf8 (c :: text) = String.utf8EncodeChar c ++ utf8 text :=
  List.flatMap_cons

/-- Names are in the order of their bytes, though they are compared as characters. -/
theorem order_eq_compare_utf8 (a b : Text) : a.order b = compare a.utf8 b.utf8 := by
  induction a generalizing b with
  | nil =>
      cases b with
      | nil => rfl
      | cons d b =>
          obtain ⟨first, more, written⟩ := exists_utf8EncodeChar d
          rw [utf8_cons, written]
          rfl
  | cons c a ih =>
      cases b with
      | nil =>
          obtain ⟨first, more, written⟩ := exists_utf8EncodeChar c
          rw [utf8_cons, written]
          rfl
      | cons d b =>
          have step : Text.order (c :: a) (d :: b) = (compare c d).then (Text.order a b) := List.compare_cons_cons
          rw [step, ih, utf8_cons, utf8_cons, compare_utf8EncodeChar]

end Text

end CommitLanes
