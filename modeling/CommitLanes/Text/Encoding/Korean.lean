import CommitLanes.Text.Chart.Ksx1001
import CommitLanes.Text.Encoding.Basic

/-! The encoding of Korean text: the chart of KS X 1001 and, in the cells around it, the
hangul syllables that the chart lacks. -/

set_option autoImplicit false

namespace CommitLanes.Encoding

/-- The codes from `code` to the end of the hangul block that are not in the list, which
is in ascending order. -/
def hangulOutside (code : Nat) (known : List Nat) : List Nat :=
  if code > 0xD7A3 then []
  else match known with
    | [] => code :: hangulOutside (code + 1) []
    | next :: rest =>
        if code = next then hangulOutside (code + 1) rest else code :: hangulOutside (code + 1) known
  termination_by 0xD7A4 - code

/-- Rows 15 to 39 of the chart hold its syllables in order. -/
def hangulExtension : Array Nat :=
  let known := (Chart.ksx1001.rows.toList.flatMap Array.toList).map Char.toNat
  (hangulOutside 0xAC00 (known.filter fun code => 0xAC00 ≤ code && code ≤ 0xD7A3)).toArray

/-- Place of a second byte outside the chart: capital letters, small letters, then the
bytes from 81. -/
def hangulPlace? (second : UInt8) : Option Nat :=
  if within 0x41 0x5A second then some (second.toNat - 0x41)
  else if within 0x61 0x7A second then some (second.toNat - 0x61 + 26)
  else if within 0x81 0xFE second then some (second.toNat - 0x81 + 52)
  else none

/-- The first thirty-two rows have room for 178 syllables each; in the later ones the
chart leaves 84 places. -/
def eucKrCell? (b second : UInt8) : Option Char :=
  if 0xA1 ≤ b && within 0xA1 0xFE second then
    Chart.ksx1001.get? ((b.toNat - 0xA1) * 94 + (second.toNat - 0xA1))
  else
    (hangulPlace? second).bind fun place =>
      let number :=
        if b < 0xA1 then (b.toNat - 0x81) * 178 + place
        else 32 * 178 + (b.toNat - 0xA1) * 84 + place
      hangulExtension[number]?.map Char.ofNat

def readEucKr (b : UInt8) (rest : Bytes) : Reading :=
  if Bytes.isAscii b then .code b.toNat 0
  else if within 0x81 0xFE b then
    match rest with
    | [] => .malformed 0
    | second :: _ => .ofChar? (eucKrCell? b second) second 1
  else .malformed 0

end CommitLanes.Encoding
