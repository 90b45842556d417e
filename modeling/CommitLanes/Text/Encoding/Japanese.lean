import CommitLanes.Text.Chart.Jis0208
import CommitLanes.Text.Chart.Jis0212
import CommitLanes.Text.Encoding.Basic

/-! The encodings of Japanese text.

All three name cells of the same chart. Shift_JIS squeezes two rows into one first byte,
EUC-JP sets the high bit of row and cell, and ISO-2022-JP switches between sets by
escape sequences.
-/

set_option autoImplicit false

namespace CommitLanes.Encoding

/-- Katakana of half width follow one another from U+FF61, and so do their codes. -/
def halfWidth (offset : Nat) : Char :=
  Char.ofNat (0xFF61 + offset)

/-- Cells behind the chart proper are left to users. -/
def shiftJisCell? (cell : Nat) : Option Char :=
  if 8836 ≤ cell && cell ≤ 10715 then some (Char.ofNat (0xE000 + (cell - 8836)))
  else Chart.jis0208.get? cell

def readShiftJis (b : UInt8) (rest : Bytes) : Reading :=
  if b ≤ 0x80 then .code b.toNat 0
  else if within 0xA1 0xDF b then .char (halfWidth (b.toNat - 0xA1)) 0
  else if within 0x81 0x9F b || within 0xE0 0xFC b then
    match rest with
    | [] => .malformed 0
    | second :: _ =>
        let found :=
          if within 0x40 0x7E second || within 0x80 0xFC second then
            shiftJisCell? ((b.toNat - (if b < 0xA0 then 0x81 else 0xC1)) * 188 + second.toNat -
              (if second < 0x7F then 0x40 else 0x41))
          else none
        .ofChar? found second 1
  else .malformed 0

def highCell? (chart : Chart) (row cell : UInt8) : Option Char :=
  if within 0xA1 0xFE row && within 0xA1 0xFE cell then
    chart.get? ((row.toNat - 0xA1) * 94 + (cell.toNat - 0xA1))
  else none

def readEucJp (b : UInt8) (rest : Bytes) : Reading :=
  if Bytes.isAscii b then .code b.toNat 0
  else if b == 0x8E || b == 0x8F || within 0xA1 0xFE b then
    match rest with
    | [] => .malformed 0
    | second :: rest =>
        if b == 0x8E && within 0xA1 0xDF second then .char (halfWidth (second.toNat - 0xA1)) 1
        else if b == 0x8F && within 0xA1 0xFE second then
          match rest with
          | [] => .malformed 1
          | third :: _ => .ofChar? (highCell? Chart.jis0212 second third) third 2
        else .ofChar? (highCell? Chart.jis0208 b second) second 1
  else .malformed 0

inductive JisMode where
  | ascii
  | roman
  | katakana
  | kanji
  deriving DecidableEq, Repr

def JisMode.ofEscape? : Bytes → Option JisMode
  | 0x28 :: 0x42 :: _ => some .ascii
  | 0x28 :: 0x4A :: _ => some .roman
  | 0x28 :: 0x49 :: _ => some .katakana
  | 0x24 :: 0x40 :: _ => some .kanji
  | 0x24 :: 0x42 :: _ => some .kanji
  | _ => none

def JisMode.char (mode : JisMode) (b : UInt8) : Char :=
  match mode with
  | .katakana => if within 0x21 0x5F b then halfWidth (b.toNat - 0x21) else '\ufffd'
  | _ =>
      if mode = .roman && b == 0x5C then '¥'
      else if mode = .roman && b == 0x7E then '‾'
      else if Bytes.isAscii b && b != 0x0E && b != 0x0F then Char.ofNat b.toNat
      else '\ufffd'

/-- `switched` holds right behind an escape sequence: a second one then makes the first
malformed, since nothing stands between them. -/
def decodeIso2022Jp (mode : JisMode) (switched : Bool) : Bytes → Text
  | [] => []
  | 0x1B :: rest =>
      match JisMode.ofEscape? rest with
      | some next =>
          (if switched then ['\ufffd'] else []) ++ decodeIso2022Jp next true (rest.drop 2)
      | none => '\ufffd' :: decodeIso2022Jp mode false rest
  | b :: rest =>
      if mode = .kanji && within 0x21 0x7E b then
        match rest with
        | [] => ['\ufffd']
        | second :: tail =>
            -- An escape sequence is obeyed even where it breaks off a character.
            if second == 0x1B then '\ufffd' :: decodeIso2022Jp mode false (second :: tail)
            else
              let found :=
                if within 0x21 0x7E second then
                  Chart.jis0208.get? ((b.toNat - 0x21) * 94 + (second.toNat - 0x21))
                else none
              found.getD '\ufffd' :: decodeIso2022Jp mode false tail
      else if mode = .kanji then '\ufffd' :: decodeIso2022Jp mode false rest
      else mode.char b :: decodeIso2022Jp mode false rest
  termination_by bytes => bytes.length
  decreasing_by all_goals simp only [List.length_drop, List.length_cons]; omega

end CommitLanes.Encoding
