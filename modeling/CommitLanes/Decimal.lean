import CommitLanes.Text

/-! Whole numbers in decimal text. A number may have one sign; blanks, separators and
an empty run of digits are refused, but for the blanks before a number that is read off the
start of something longer. -/

set_option autoImplicit false

namespace CommitLanes.Decimal

def isDigit (c : Char) : Bool :=
  '0' ≤ c && c ≤ '9'

def extend (acc : Nat) : Text → Option Nat
  | [] => some acc
  | c :: rest => if isDigit c then extend (acc * 10 + (c.toNat - '0'.toNat)) rest else none

def natural? (text : Text) : Option Nat :=
  if text.isEmpty then none else extend 0 text

def integer? : Text → Option Int
  | '-' :: digits => (natural? digits).map fun n => -(n : Int)
  | '+' :: digits => (natural? digits).map Int.ofNat
  | digits => (natural? digits).map Int.ofNat

/-- Refuses what lies outside the signed words of 64 bits. -/
def int64? (text : Text) : Option Int64 :=
  (integer? text).bind fun n =>
    if Int64.minValue.toInt ≤ n ∧ n ≤ Int64.maxValue.toInt then some (Int64.ofInt n) else none

/-- The number that the bytes begin with, behind spaces. What follows its digits does not
count. -/
def leading? (bytes : Bytes) : Option Int64 :=
  let (sign, digits) := match bytes.dropWhile Bytes.isSpace with
    | 0x2D :: digits => (['-'], digits)
    | 0x2B :: digits => ([], digits)
    | digits => ([], digits)
  let digits := (digits.takeWhile Bytes.isDigit).map fun b => Char.ofNat b.toNat
  int64? (sign ++ digits)

/-- A count takes no minus, and fits an unsigned word of 64 bits. -/
def count? (text : Text) : Option Nat :=
  let digits := match text with
    | '+' :: digits => digits
    | digits => digits
  (natural? digits).bind fun n => if n < UInt64.size then some n else none

def digit (n : Nat) : Char :=
  Char.ofNat ('0'.toNat + n % 10)

def ofNat (n : Nat) : Text :=
  if n < 10 then [digit n] else ofNat (n / 10) ++ [digit n]

def ofInt : Int → Text
  | .ofNat n => ofNat n
  | .negSucc n => '-' :: ofNat (n + 1)

def padded (width n : Nat) : Text :=
  List.replicate (width - (ofNat n).length) '0' ++ ofNat n

end CommitLanes.Decimal
