import CommitLanes.Decimal

/-! Numbers are read back from their decimal text, over the whole range of the words they are
read into. -/

set_option autoImplicit false

namespace CommitLanes.Decimal

section Natural

theorem isDigit_digit (n : Nat) : isDigit (digit n) = true := by
  have known : ∀ d < 10, isDigit (digit d) = true := by decide
  have bound : n % 10 < 10 := Nat.mod_lt _ (by decide)
  simpa [digit] using known (n % 10) bound

theorem toNat_digit (n : Nat) : (digit n).toNat - '0'.toNat = n % 10 := by
  have known : ∀ d < 10, (digit d).toNat - '0'.toNat = d := by decide
  have bound : n % 10 < 10 := Nat.mod_lt _ (by decide)
  simpa [digit] using known (n % 10) bound

theorem extend_append (acc : Nat) (front back : Text) :
    extend acc (front ++ back) = (extend acc front).bind fun n => extend n back := by
  induction front generalizing acc with
  | nil => rfl
  | cons c front ih =>
      rw [List.cons_append, extend, extend]
      split
      · exact ih _
      · rfl

theorem extend_digit (acc n : Nat) : extend acc [digit n] = some (acc * 10 + n % 10) := by
  rw [extend, if_pos (isDigit_digit n), toNat_digit, extend]

theorem extend_ofNat (n : Nat) : extend 0 (ofNat n) = some n := by
  -- The last digit is the remainder, and the digits before it are those of the quotient.
  fun_induction ofNat n with
  | case1 n small =>
      rw [extend_digit, Nat.mod_eq_of_lt small, Nat.zero_mul, Nat.zero_add]
  | case2 n large ih =>
      rw [extend_append, ih, Option.bind_some, extend_digit, Nat.div_add_mod']

theorem ofNat_ne_nil (n : Nat) : ofNat n ≠ [] := by
  rw [ofNat]
  split <;> simp

theorem natural?_ofNat (n : Nat) : natural? (ofNat n) = some n := by
  have full : ¬ (ofNat n).isEmpty = true := fun empty => ofNat_ne_nil n (List.isEmpty_iff.mp empty)
  rw [natural?, if_neg full, extend_ofNat]

theorem isDigit_of_mem_ofNat {n : Nat} {c : Char} (member : c ∈ ofNat n) : isDigit c = true := by
  fun_induction ofNat n with
  | case1 n small =>
      rw [List.mem_singleton.mp member]
      exact isDigit_digit n
  | case2 n large ih =>
      rcases List.mem_append.mp member with front | last
      · exact ih front
      · rw [List.mem_singleton.mp last]
        exact isDigit_digit n

end Natural

section Integer

theorem integer?_of_digits {text : Text} (digits : ∀ c ∈ text, isDigit c = true) :
    integer? text = (natural? text).map Int.ofNat := by
  unfold integer?
  split
  next rest =>
    have wrong : isDigit '-' = true := digits '-' (List.mem_cons_self ..)
    exact absurd wrong (by decide)
  next rest =>
    have wrong : isDigit '+' = true := digits '+' (List.mem_cons_self ..)
    exact absurd wrong (by decide)
  next => rfl

theorem integer?_ofInt (n : Int) : integer? (ofInt n) = some n := by
  cases n with
  | negSucc n =>
      rw [ofInt, integer?, natural?_ofNat]
      rfl
  | ofNat n =>
      rw [ofInt, integer?_of_digits fun c => isDigit_of_mem_ofNat, natural?_ofNat]
      rfl

theorem int64?_ofInt (n : Int64) : int64? (ofInt n.toInt) = some n := by
  have inside : Int64.minValue.toInt ≤ n.toInt ∧ n.toInt ≤ Int64.maxValue.toInt :=
    ⟨n.minValue_le_toInt, n.toInt_le⟩
  rw [int64?, integer?_ofInt, Option.bind_some, if_pos inside, Int64.ofInt_toInt]

theorem sign_or_digit_of_mem_ofInt {n : Int} {c : Char} (member : c ∈ ofInt n) :
    c = '-' ∨ isDigit c = true := by
  cases n with
  | ofNat n => exact .inr (isDigit_of_mem_ofNat member)
  | negSucc n =>
      rcases List.mem_cons.mp member with sign | member
      · exact .inl sign
      · exact .inr (isDigit_of_mem_ofNat member)

end Integer

end CommitLanes.Decimal
