import CommitLanes.Proofs.Decimal
import CommitLanes.Proofs.Text.Trim
import Mathlib.Data.Nat.Digits.Defs

/-! Which texts are numbers: digits behind one sign at most. A number in a word of 64 bits is read
off every text that stands for it, whatever zeros are in front, and off no other.
-/

set_option autoImplicit false

namespace CommitLanes.Decimal

def worth (digits : Text) : Nat :=
  Nat.ofDigits 10 (digits.reverse.map fun c => c.toNat - '0'.toNat)

inductive Numeral : Text → Int → Prop
  | plain {digits : Text} (full : digits ≠ []) (digit : ∀ c ∈ digits, isDigit c = true) :
      Numeral digits (worth digits)
  | plus {digits : Text} (full : digits ≠ []) (digit : ∀ c ∈ digits, isDigit c = true) :
      Numeral ('+' :: digits) (worth digits)
  | minus {digits : Text} (full : digits ≠ []) (digit : ∀ c ∈ digits, isDigit c = true) :
      Numeral ('-' :: digits) (-worth digits)

variable {text digits : Text} {acc n : Nat}

section Natural

theorem worth_cons (c : Char) (digits : Text) :
    worth (c :: digits) = (c.toNat - '0'.toNat) * 10 ^ digits.length + worth digits := by
  rw [worth, List.reverse_cons, List.map_append, Nat.ofDigits_append, List.length_map, List.length_reverse,
    List.map_singleton, Nat.ofDigits_singleton, Nat.add_comm, Nat.mul_comm]
  rfl

theorem extend_of_digits (digit : ∀ c ∈ digits, isDigit c = true) (acc : Nat) :
    extend acc digits = some (acc * 10 ^ digits.length + worth digits) := by
  induction digits generalizing acc with
  | nil => simp [extend, worth]
  | cons c digits ih =>
      obtain ⟨first, digit⟩ := List.forall_mem_cons.mp digit
      rw [extend, if_pos first, ih digit, worth_cons, List.length_cons, Nat.pow_succ', Nat.add_mul, Nat.mul_assoc,
        Nat.add_assoc]

theorem digits_of_extend (read : extend acc text = some n) : ∀ c ∈ text, isDigit c = true := by
  induction text generalizing acc with
  | nil => exact fun _ member => absurd member List.not_mem_nil
  | cons c text ih =>
      rw [extend] at read
      split at read
      next first => exact List.forall_mem_cons.mpr ⟨first, ih read⟩
      next => cases read

theorem natural?_eq_some_iff :
    natural? text = some n ↔ text ≠ [] ∧ (∀ c ∈ text, isDigit c = true) ∧ worth text = n := by
  rw [natural?]
  constructor
  · intro read
    split at read
    next => cases read
    next full =>
      have digit := digits_of_extend read
      rw [extend_of_digits digit, Nat.zero_mul, Nat.zero_add] at read
      exact ⟨fun empty => full (List.isEmpty_iff.mpr empty), digit, Option.some.inj read⟩
  · rintro ⟨full, digit, rfl⟩
    rw [if_neg fun empty => full (List.isEmpty_iff.mp empty), extend_of_digits digit, Nat.zero_mul, Nat.zero_add]

end Natural

section Integer

variable {z : Int}

theorem integer?_of_numeral (numeral : Numeral text z) : integer? text = some z := by
  cases numeral with
  | plain full digit =>
      rw [integer?_of_digits digit, natural?_eq_some_iff.mpr ⟨full, digit, rfl⟩]
      rfl
  | plus full digit =>
      rw [integer?, natural?_eq_some_iff.mpr ⟨full, digit, rfl⟩]
      rfl
  | minus full digit =>
      rw [integer?, natural?_eq_some_iff.mpr ⟨full, digit, rfl⟩]
      rfl

theorem numeral_of_integer? (read : integer? text = some z) : Numeral text z := by
  unfold integer? at read
  split at read
  next digits =>
    obtain ⟨whole, natural, rfl⟩ := Option.map_eq_some_iff.mp read
    obtain ⟨n, natural, same⟩ := Option.bind_eq_some_iff.mp natural
    obtain ⟨full, digit, rfl⟩ := natural?_eq_some_iff.mp natural
    cases same
    exact .minus full digit
  next digits =>
    obtain ⟨n, natural, rfl⟩ := Option.map_eq_some_iff.mp read
    obtain ⟨full, digit, rfl⟩ := natural?_eq_some_iff.mp natural
    exact .plus full digit
  next =>
    obtain ⟨n, natural, rfl⟩ := Option.map_eq_some_iff.mp read
    obtain ⟨full, digit, rfl⟩ := natural?_eq_some_iff.mp natural
    exact .plain full digit

theorem int64?_eq_some_iff {seconds : Int64} : int64? text = some seconds ↔ Numeral text seconds.toInt := by
  rw [int64?, Option.bind_eq_some_iff]
  constructor
  · rintro ⟨z, read, inside⟩
    split at inside
    next range =>
      obtain ⟨least, most⟩ := range
      cases inside
      rw [Int64.toInt_ofInt_of_le least (Int.lt_add_one_of_le most)]
      exact numeral_of_integer? read
    next => cases inside
  · intro numeral
    refine ⟨seconds.toInt, integer?_of_numeral numeral, ?_⟩
    rw [if_pos ⟨seconds.minValue_le_toInt, seconds.toInt_le⟩, Int64.ofInt_toInt]

theorem Numeral.ne_nil (numeral : Numeral text z) : text ≠ [] := by
  cases numeral with
  | plain full digit => exact full
  | plus full digit => exact List.cons_ne_nil _ _
  | minus full digit => exact List.cons_ne_nil _ _

theorem not_blank_of_digit {c : Char} (digit : isDigit c = true) : Text.isBlank c = false := by
  have known : ∀ code < 58, 48 ≤ code → Text.isBlank (Char.ofNat code) = false := by decide
  rw [isDigit, Bool.and_eq_true, decide_eq_true_iff, decide_eq_true_iff, Char.le_def, Char.le_def,
    UInt32.le_iff_toNat_le, UInt32.le_iff_toNat_le] at digit
  rw [← Char.ofNat_toNat c]
  exact known c.toNat (Nat.lt_succ_of_le digit.2) digit.1

theorem Numeral.not_blank (numeral : Numeral text z) : ∀ c ∈ text, Text.isBlank c = false := by
  cases numeral with
  | plain full digit => exact fun c member => not_blank_of_digit (digit c member)
  | plus full digit =>
      exact List.forall_mem_cons.mpr ⟨by decide, fun c member => not_blank_of_digit (digit c member)⟩
  | minus full digit =>
      exact List.forall_mem_cons.mpr ⟨by decide, fun c member => not_blank_of_digit (digit c member)⟩

theorem int64?_trim_eq_some_iff {seconds : Int64} :
    int64? text.trim = some seconds ↔
      ∃ before number after : Text, text = before ++ number ++ after ∧ (∀ c ∈ before, Text.isBlank c = true) ∧
        (∀ c ∈ after, Text.isBlank c = true) ∧ Numeral number seconds.toInt := by
  rw [int64?_eq_some_iff]
  constructor
  · intro numeral
    obtain ⟨before, after, same, front, back⟩ := Text.exists_padding text
    exact ⟨before, text.trim, after, same, front, back, numeral⟩
  · rintro ⟨before, number, after, rfl, front, back, numeral⟩
    rwa [Text.trim_padded front back numeral.ne_nil
      (fun c first => numeral.not_blank c (List.mem_of_mem_head? first))
      (fun c last => numeral.not_blank c (List.mem_of_mem_getLast? last))]

end Integer

end CommitLanes.Decimal
