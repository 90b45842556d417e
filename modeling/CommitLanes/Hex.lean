import CommitLanes.Text

/-! Hexadecimal text of byte strings: reading takes digits of either case, writing gives
the lower one. -/

set_option autoImplicit false

namespace CommitLanes.Hex

def value? (b : UInt8) : Option UInt8 :=
  if 0x30 ≤ b && b ≤ 0x39 then some (b - 0x30)
  else if 0x61 ≤ b && b ≤ 0x66 then some (b - 0x57)
  else if 0x41 ≤ b && b ≤ 0x46 then some (b - 0x37)
  else none

def decode : Bytes → Option Bytes
  | [] => some []
  | [_] => none
  | high :: low :: rest => do
      let high ← value? high
      let low ← value? low
      let rest ← decode rest
      some ((high * 16 + low) :: rest)

def digit (value : UInt8) : Char :=
  if value < 10 then Char.ofNat (0x30 + value.toNat) else Char.ofNat (0x57 + value.toNat)

def encode (bytes : Bytes) : Text :=
  bytes.flatMap fun b => [digit (b / 16), digit (b % 16)]

theorem length_of_decode {hex bytes : Bytes} (read : decode hex = some bytes) :
    hex.length = 2 * bytes.length := by
  fun_induction decode hex generalizing bytes with
  | case1 => simp_all
  | case2 => simp at read
  | case3 high low rest ih =>
      simp only [Option.bind_eq_bind, Option.bind_eq_some_iff, Option.some.injEq] at read
      obtain ⟨_, _, _, _, tail, inner, rfl⟩ := read
      simp [ih inner]
      omega

end CommitLanes.Hex
