import CommitLanes.ObjectId

/-! An id is read back from the digits it is written in, which are none of the bytes that stand
between ids. -/

set_option autoImplicit false

namespace CommitLanes

namespace Hex

def digitByte (value : UInt8) : UInt8 :=
  if value < 10 then 0x30 + value else 0x57 + value

theorem digits_ascii : ∀ value < 16,
    String.utf8EncodeChar (digit (UInt8.ofNat value)) = [digitByte (UInt8.ofNat value)] ∧
      value? (digitByte (UInt8.ofNat value)) = some (UInt8.ofNat value) ∧
      0x30 ≤ digitByte (UInt8.ofNat value) := by
  decide

theorem digit_ascii {value : UInt8} (small : value < 16) :
    String.utf8EncodeChar (digit value) = [digitByte value] ∧ value? (digitByte value) = some value ∧
      0x30 ≤ digitByte value := by
  have known := digits_ascii value.toNat small
  rwa [UInt8.ofNat_toNat] at known

theorem high_small (b : UInt8) : b / 16 < 16 := by
  have bound : b.toNat < 256 := b.toNat_lt
  rw [UInt8.lt_iff_toNat_lt, UInt8.toNat_div]
  show b.toNat / 16 < 16
  omega

theorem low_small (b : UInt8) : b % 16 < 16 := by
  rw [UInt8.lt_iff_toNat_lt, UInt8.toNat_mod]
  exact Nat.mod_lt _ (by decide)

theorem high_low (b : UInt8) : b / 16 * 16 + b % 16 = b := by
  have bound : b.toNat < 256 := b.toNat_lt
  apply UInt8.toNat_inj.mp
  -- Neither the product nor the sum reaches 256.
  rw [UInt8.toNat_add, UInt8.toNat_mul, UInt8.toNat_div, UInt8.toNat_mod]
  show (b.toNat / 16 * 16 % 256 + b.toNat % 16) % 256 = b.toNat
  omega

theorem utf8_encode_cons (b : UInt8) (rest : Bytes) :
    (encode (b :: rest)).utf8 = digitByte (b / 16) :: digitByte (b % 16) :: (encode rest).utf8 := by
  have high := (digit_ascii (high_small b)).1
  have low := (digit_ascii (low_small b)).1
  simp [encode, Text.utf8, high, low]

theorem decode_encode (bytes : Bytes) : decode (encode bytes).utf8 = some bytes := by
  induction bytes with
  | nil => rfl
  | cons b rest ih =>
      have high := (digit_ascii (high_small b)).2.1
      have low := (digit_ascii (low_small b)).2.1
      rw [utf8_encode_cons, decode, high, low, ih]
      simp [high_low]

theorem le_of_mem_encode {bytes : Bytes} {b : UInt8} (member : b ∈ (encode bytes).utf8) : 0x30 ≤ b := by
  induction bytes with
  | nil => simp [encode] at member
  | cons first rest ih =>
      rw [utf8_encode_cons] at member
      rcases List.mem_cons.mp member with rfl | member
      · exact (digit_ascii (high_small first)).2.2
      rcases List.mem_cons.mp member with rfl | member
      · exact (digit_ascii (low_small first)).2.2
      · exact ih member

end Hex

namespace ObjectId

theorem length_hex (id : ObjectId) : id.hex.utf8.length = 2 * id.bytes.length :=
  Hex.length_of_decode (Hex.decode_encode id.bytes)

theorem le_of_mem_hex {id : ObjectId} {b : UInt8} (member : b ∈ id.hex.utf8) : 0x30 ≤ b :=
  Hex.le_of_mem_encode member

end ObjectId

end CommitLanes
