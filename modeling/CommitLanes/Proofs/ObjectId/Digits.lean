import CommitLanes.Proofs.ObjectId

/-! Which texts name an object: those of exactly the digits of its kind, in either case. The id
written out again is the same text in the lower one.
-/

set_option autoImplicit false

namespace CommitLanes

namespace Hex

def isDigit (b : UInt8) : Bool :=
  0x30 ≤ b && b ≤ 0x39 || 0x41 ≤ b && b ≤ 0x46 || 0x61 ≤ b && b ≤ 0x66

def isRead (b : UInt8) : Option UInt8 → Bool
  | some value => isDigit b && value < 16 && Bytes.toLower b == digitByte value
  | none => !isDigit b

theorem bytes_read : ∀ number < 256, isRead (UInt8.ofNat number) (value? (UInt8.ofNat number)) := by
  decide +kernel

variable {b value : UInt8} {hex bytes : Bytes}

theorem read_value (b : UInt8) : isRead b (value? b) = true := by
  have known := bytes_read b.toNat b.toNat_lt
  rwa [UInt8.ofNat_toNat] at known

theorem digit_of_value (read : value? b = some value) :
    isDigit b = true ∧ value < 16 ∧ Bytes.toLower b = digitByte value := by
  have known := read_value b
  rw [read, isRead, Bool.and_eq_true, Bool.and_eq_true, decide_eq_true_eq, beq_iff_eq] at known
  exact ⟨known.1.1, known.1.2, known.2⟩

theorem exists_value (digit : isDigit b = true) : ∃ value, value? b = some value := by
  have known := read_value b
  cases read : value? b with
  | some value => exact ⟨value, rfl⟩
  | none =>
      rw [read, isRead, digit] at known
      cases known

theorem halves {high low : UInt8} (highSmall : high < 16) (lowSmall : low < 16) :
    (high * 16 + low) / 16 = high ∧ (high * 16 + low) % 16 = low := by
  have first : high.toNat < 16 := UInt8.lt_iff_toNat_lt.mp highSmall
  have second : low.toNat < 16 := UInt8.lt_iff_toNat_lt.mp lowSmall
  have sum : (high * 16 + low).toNat = high.toNat * 16 + low.toNat := by
    rw [UInt8.toNat_add, UInt8.toNat_mul]
    show (high.toNat * 16 % 256 + low.toNat) % 256 = high.toNat * 16 + low.toNat
    omega
  constructor
  · apply UInt8.toNat_inj.mp
    rw [UInt8.toNat_div, sum]
    show (high.toNat * 16 + low.toNat) / 16 = high.toNat
    omega
  · apply UInt8.toNat_inj.mp
    rw [UInt8.toNat_mod, sum]
    show (high.toNat * 16 + low.toNat) % 16 = low.toNat
    omega

theorem digits_of_decode (read : decode hex = some bytes) :
    (∀ b ∈ hex, isDigit b = true) ∧ (encode bytes).utf8 = hex.map Bytes.toLower := by
  fun_induction decode hex generalizing bytes with
  | case1 =>
      cases read
      exact ⟨fun _ member => absurd member List.not_mem_nil, rfl⟩
  | case2 => cases read
  | case3 high low rest ih =>
      simp only [Option.bind_eq_bind, Option.bind_eq_some_iff, Option.some.injEq] at read
      obtain ⟨first, readHigh, second, readLow, others, later, rfl⟩ := read
      obtain ⟨highDigit, highSmall, highLower⟩ := digit_of_value readHigh
      obtain ⟨lowDigit, lowSmall, lowLower⟩ := digit_of_value readLow
      obtain ⟨digits, lower⟩ := ih later
      obtain ⟨upperHalf, lowerHalf⟩ := halves highSmall lowSmall
      refine ⟨List.forall_mem_cons.mpr ⟨highDigit, List.forall_mem_cons.mpr ⟨lowDigit, digits⟩⟩, ?_⟩
      rw [utf8_encode_cons, upperHalf, lowerHalf, lower, ← highLower, ← lowLower]
      rfl

theorem exists_decode (digits : ∀ b ∈ hex, isDigit b = true) (even : hex.length % 2 = 0) :
    ∃ bytes, decode hex = some bytes := by
  fun_induction decode hex with
  | case1 => exact ⟨[], rfl⟩
  | case2 => cases even
  | case3 high low rest ih =>
      obtain ⟨highDigit, digits⟩ := List.forall_mem_cons.mp digits
      obtain ⟨lowDigit, digits⟩ := List.forall_mem_cons.mp digits
      obtain ⟨first, readHigh⟩ := exists_value highDigit
      obtain ⟨second, readLow⟩ := exists_value lowDigit
      rw [List.length_cons, List.length_cons] at even
      obtain ⟨others, later⟩ := ih digits (by omega)
      exact ⟨_, by rw [readHigh, readLow, later]; rfl⟩

theorem not_blank_of_digit (digit : isDigit b = true) : Bytes.isBlank b = false := by
  have known : ∀ number < 256, isDigit (UInt8.ofNat number) = true →
      Bytes.isBlank (UInt8.ofNat number) = false := by decide +kernel
  have here := known b.toNat b.toNat_lt
  rw [UInt8.ofNat_toNat] at here
  exact here digit

end Hex

namespace ObjectId

structure Digits (hash : HashFunction) (digits : Bytes) : Prop where
  length : digits.length = hash.hexLength
  digits : ∀ b ∈ digits, Hex.isDigit b = true

/-- The text is that of the id, but for the case of its digits. -/
def Spells (digits : Bytes) (id : ObjectId) : Prop :=
  id.hex.utf8 = digits.map Bytes.toLower

/-- What is wrong with a text that names no object; its length comes first. -/
inductive Refused (hash : HashFunction) (digits : Bytes) : Fault → Prop
  | length (other : digits.length ≠ hash.hexLength) : Refused hash digits (.length hash.hexLength digits.length)
  | digit (fits : digits.length = hash.hexLength) (wrong : ∃ b ∈ digits, Hex.isDigit b = false) :
      Refused hash digits .digit

variable {hash : HashFunction} {digits : Bytes} {id : ObjectId} {fault : Fault}

theorem eq_of_spells {other : ObjectId} (spells : Spells digits id) (same : Spells digits other) : id = other := by
  have text : id.hex.utf8 = other.hex.utf8 := spells.trans same.symm
  have bytes := congrArg Hex.decode text
  rw [hex, hex, Hex.decode_encode, Hex.decode_encode, Option.some.injEq] at bytes
  cases id
  cases other
  cases bytes
  rfl

theorem digits_or_refused (hash : HashFunction) (digits : Bytes) :
    Digits hash digits ∨ ∃ fault, Refused hash digits fault := by
  by_cases fits : digits.length = hash.hexLength
  · cases all : digits.all Hex.isDigit with
    | true => exact .inl ⟨fits, List.all_eq_true.mp all⟩
    | false =>
        obtain ⟨b, member, wrong⟩ := List.all_eq_false.mp all
        exact .inr ⟨_, .digit fits ⟨b, member, eq_false_of_ne_true wrong⟩⟩
  · exact .inr ⟨_, .length fits⟩

theorem Refused.not_digits (refused : Refused hash digits fault) : ¬ Digits hash digits := by
  intro all
  cases refused with
  | length other => exact other all.length
  | digit fits wrong =>
      obtain ⟨b, member, wrong⟩ := wrong
      exact absurd (all.digits b member) (by rw [wrong]; exact Bool.false_ne_true)

theorem exists_spells (all : Digits hash digits) : ∃ id, Spells digits id ∧ ofHex hash digits = .ok id := by
  have even : digits.length % 2 = 0 := by
    rw [all.length, HashFunction.hexLength]
    exact Nat.mul_mod_left ..
  obtain ⟨known, decoded⟩ := Hex.exists_decode all.digits even
  rw [ofHex, dif_pos all.length]
  split
  next refused =>
    rw [decoded] at refused
    cases refused
  next bytes read =>
    refine ⟨_, ?_, rfl⟩
    exact (Hex.digits_of_decode read).2

theorem ofHex_of_spells (all : Digits hash digits) (spells : Spells digits id) : ofHex hash digits = .ok id := by
  obtain ⟨other, same, read⟩ := exists_spells all
  rw [read, eq_of_spells spells same]

theorem ofHex_of_refused (refused : Refused hash digits fault) : ofHex hash digits = .error fault := by
  cases refused with
  | length other => rw [ofHex, dif_neg other]
  | digit fits wrong =>
      obtain ⟨b, member, wrong⟩ := wrong
      rw [ofHex, dif_pos fits]
      split
      next => rfl
      next bytes read =>
        have digit := (Hex.digits_of_decode read).1 b member
        rw [wrong] at digit
        cases digit

theorem spells_hex (id : ObjectId) : Spells id.hex.utf8 id :=
  (Hex.digits_of_decode (Hex.decode_encode id.bytes)).2

theorem digits_hex (fits : id.bytes.length = hash.byteLength) : Digits hash id.hex.utf8 := by
  constructor
  · rw [length_hex, fits, HashFunction.hexLength, Nat.mul_comm]
  · exact (Hex.digits_of_decode (Hex.decode_encode id.bytes)).1

theorem length_of_spells (all : Digits hash digits) (spells : Spells digits id) :
    id.bytes.length = hash.byteLength := by
  have lengths := congrArg List.length spells
  rw [length_hex, List.length_map, all.length, HashFunction.hexLength] at lengths
  omega

theorem hexLength_pos (hash : HashFunction) : 0 < hash.hexLength := by
  cases hash <;> decide

end ObjectId

end CommitLanes
