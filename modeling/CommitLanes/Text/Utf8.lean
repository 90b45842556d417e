import CommitLanes.Text

/-! UTF-8 read as a sequence of characters and malformed places.

A malformed place is the longest start of a well-formed character that breaks off, or
one byte where nothing can start. Both readings come from this sequence: the strict one
refuses every malformed place and the lenient one puts U+FFFD there.
-/

set_option autoImplicit false

namespace CommitLanes.Utf8

/-- What a first byte announces: the bits it gives, how many bytes follow, and the range
of the first of them. The range keeps out overlong forms, surrogates and what lies
above U+10FFFF. -/
structure Lead where
  bits : Nat
  following : Nat
  low : UInt8
  high : UInt8

def lead? (b : UInt8) : Option Lead :=
  if b < 0x80 then some ⟨b.toNat, 0, 0x80, 0xBF⟩
  else if b < 0xC2 then none
  else if b < 0xE0 then some ⟨b.toNat - 0xC0, 1, 0x80, 0xBF⟩
  else if b == 0xE0 then some ⟨0, 2, 0xA0, 0xBF⟩
  else if b == 0xED then some ⟨0xD, 2, 0x80, 0x9F⟩
  else if b < 0xF0 then some ⟨b.toNat - 0xE0, 2, 0x80, 0xBF⟩
  else if b == 0xF0 then some ⟨0, 3, 0x90, 0xBF⟩
  else if b < 0xF4 then some ⟨b.toNat - 0xF0, 3, 0x80, 0xBF⟩
  else if b == 0xF4 then some ⟨4, 3, 0x80, 0x8F⟩
  else none

/-- Reads the bytes after the first. Gives the code, if they are all there, and how many
of them belong to the character or to the malformed place. -/
def follow (bits : Nat) (low high : UInt8) : Nat → Bytes → Option Nat × Nat
  | 0, _ => (some bits, 0)
  | _ + 1, [] => (none, 0)
  | following + 1, b :: rest =>
      if low ≤ b && b ≤ high then
        let (code, taken) := follow (bits * 64 + b.toNat % 64) 0x80 0xBF following rest
        (code, taken + 1)
      else (none, 0)

/-- One character or malformed place at `b`, and how many bytes of `rest` it takes. -/
def next (b : UInt8) (rest : Bytes) : Option Char × Nat :=
  match lead? b with
  | none => (none, 0)
  | some lead =>
      let (code, taken) := follow lead.bits lead.low lead.high lead.following rest
      (code.map Char.ofNat, taken)

/-- The whole sequence; `none` marks a malformed place. -/
def pieces : Bytes → List (Option Char)
  | [] => []
  | b :: rest => (next b rest).1 :: pieces (rest.drop (next b rest).2)
  termination_by bytes => bytes.length
  decreasing_by simp only [List.length_drop, List.length_cons]; omega

def decode? (bytes : Bytes) : Option Text :=
  (pieces bytes).mapM id

def decode (bytes : Bytes) : Text :=
  (pieces bytes).map fun piece => piece.getD '\ufffd'

end CommitLanes.Utf8
