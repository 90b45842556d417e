import CommitLanes.Text.Chart.Big5
import CommitLanes.Text.Chart.Gb18030
import CommitLanes.Text.Encoding.Basic

/-! The encodings of Chinese text: GB 18030, with the older GBK inside it, and Big5. -/

set_option autoImplicit false

namespace CommitLanes.Encoding

def privateCode? (cell : Nat) : List (Nat × Nat × Nat) → Option Nat
  | [] => none
  | (first, code, count) :: rest =>
      if first ≤ cell && cell < first + count then some (code + (cell - first))
      else privateCode? cell rest

def gb18030Cell? (cell : Nat) : Option Char :=
  Chart.gb18030.get? cell <|> (privateCode? cell Chart.gb18030Private).map Char.ofNat

def runCode (number : Nat) : List (Nat × Nat) → Nat → Nat
  | [], code => code
  | (first, start) :: rest, code =>
      if number < first then code else runCode number rest (start + (number - first))

/-- A four-byte code is a number: small ones fill the gaps of the two-byte chart, large
ones name the other planes. Between the two there is nothing. -/
def gb18030Number? (number : Nat) : Option Char :=
  if number < 39420 then some (Char.ofNat (runCode number Chart.gb18030Runs 0))
  else if 189000 ≤ number && number < 1237576 then some (Char.ofNat (0x10000 + (number - 189000)))
  else none

/-- Four bytes after the first two were seen to start a four-byte code. When one of the
later bytes does not fit, only the first byte is malformed and the others are read
again; when they are missing, everything is. -/
def gb18030Four (first second : UInt8) (rest : Bytes) : Reading :=
  match rest with
  | [] => .malformed 1
  | third :: rest =>
      if within 0x81 0xFE third then
        match rest with
        | [] => .malformed 2
        | fourth :: _ =>
            if within 0x30 0x39 fourth then
              let number := (((first.toNat - 0x81) * 10 + (second.toNat - 0x30)) * 126 +
                (third.toNat - 0x81)) * 10 + (fourth.toNat - 0x30)
              match gb18030Number? number with
              | some c => .char c 3
              | none => .malformed 3
            else .malformed 0
      else .malformed 0

def readGb18030 (b : UInt8) (rest : Bytes) : Reading :=
  if Bytes.isAscii b then .code b.toNat 0
  else if b == 0x80 then .char '€' 0
  else if b == 0xFF then .malformed 0
  else match rest with
    | [] => .malformed 0
    | second :: rest =>
        if within 0x30 0x39 second then gb18030Four b second rest
        else
          let found :=
            if within 0x40 0x7E second || within 0x80 0xFE second then
              gb18030Cell? ((b.toNat - 0x81) * 190 + second.toNat -
                (if second < 0x7F then 0x40 else 0x41))
            else none
          .ofChar? found second 1

/-- Four cells of Big5 stand for a letter with a mark that has no code of its own. -/
def big5Pair? (cell : Nat) : Option Text :=
  if cell = 1133 then some ['\u00ca', '\u0304']
  else if cell = 1135 then some ['\u00ca', '\u030c']
  else if cell = 1164 then some ['\u00ea', '\u0304']
  else if cell = 1166 then some ['\u00ea', '\u030c']
  else none

def readBig5 (b : UInt8) (rest : Bytes) : Reading :=
  if Bytes.isAscii b then .code b.toNat 0
  else if within 0x81 0xFE b then
    match rest with
    | [] => .malformed 0
    | second :: _ =>
        if within 0x40 0x7E second || within 0xA1 0xFE second then
          let cell := (b.toNat - 0x81) * 157 + second.toNat - (if second < 0x7F then 0x40 else 0x62)
          match big5Pair? cell with
          | some chars => ⟨chars, 1⟩
          | none => .ofChar? (Chart.big5.get? cell) second 1
        else .ofChar? none second 1
  else .malformed 0

end CommitLanes.Encoding
