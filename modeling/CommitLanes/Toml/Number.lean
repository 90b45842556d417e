import CommitLanes.Toml.Literal
import CommitLanes.Toml.Table

/-! Numbers and moments of a TOML document. -/

set_option autoImplicit false

namespace CommitLanes.Toml

/-- Digits with single underscores between them, without the underscores. -/
def digitsAfter (isDigit : Char → Bool) : Text → Text × Text
  | '_' :: c :: rest =>
      if isDigit c then
        let (more, rest) := digitsAfter isDigit rest
        (c :: more, rest)
      else ([], '_' :: c :: rest)
  | c :: rest =>
      if isDigit c then
        let (more, rest) := digitsAfter isDigit rest
        (c :: more, rest)
      else ([], c :: rest)
  | [] => ([], [])

def digitRun (isDigit : Char → Bool) : Reader Text
  | c :: rest =>
      if isDigit c then
        let (more, rest) := digitsAfter isDigit rest
        some (c :: more, rest)
      else none
  | [] => none

/-- A whole number without its sign: a zero stands alone. -/
def wholeDigits : Reader Text
  | '0' :: rest => some (['0'], rest)
  | text => digitRun Decimal.isDigit text

def sign : Text → Bool × Text
  | '-' :: rest => (true, rest)
  | '+' :: rest => (false, rest)
  | text => (false, text)

def inWord (n : Int) : Option Int :=
  if Int64.minValue.toInt ≤ n ∧ n ≤ Int64.maxValue.toInt then some n else none

def radix (base : Nat) (text : Text) : Option (Value × Text) := do
  let isDigit (c : Char) : Bool := ((hexDigit? c).map fun value => decide (value < base)) = some true
  let (digits, rest) ← digitRun isDigit text
  let n := digits.foldl (fun n c => n * base + (hexDigit? c).getD 0) 0
  let n ← inWord n
  some (.integer n, rest)

/-- Whether digits and a power of ten make a number that rounds beyond the largest finite
double. -/
def overflows (digits : Text) (power : Int) : Bool :=
  let digits := digits.dropWhile (· = '0')
  let n := (Decimal.extend 0 digits).getD 0
  let reach := digits.length + power
  if n = 0 || reach < 300 then false
  else if 400 < reach then true
  else
    -- halfway between the largest double and the next power of two
    let limit := 1 <<< 1024 - 1 <<< 970
    let scale := Nat.pow 10 power.natAbs
    if 0 ≤ power then limit ≤ n * scale else limit * scale ≤ n

def fractionPart (text : Text) : Option (Option Text × Text) :=
  match text with
  | '.' :: rest => (digitRun Decimal.isDigit rest).map fun (digits, rest) => (some digits, rest)
  | _ => some (none, text)

def exponentPart (text : Text) : Option (Option Int × Text) :=
  match text with
  | 'e' :: rest | 'E' :: rest => do
      let (negative, rest) := sign rest
      let (digits, rest) ← digitRun Decimal.isDigit rest
      let n : Int := (Decimal.extend 0 digits).getD 0
      some (some (if negative then -n else n), rest)
  | _ => some (none, text)

/-- A decimal number, whole or with a fraction or an exponent. Too large a positive one is
refused. -/
def decimal (text : Text) : Option (Value × Text) := do
  let (negative, unsigned) := sign text
  let (digits, rest) ← wholeDigits unsigned
  let (fraction, rest) ← fractionPart rest
  let (exponent, rest) ← exponentPart rest
  -- Only a point or an exponent makes a fraction; digits alone must fit a word.
  if fraction.isNone && exponent.isNone then
    let n : Int := (Decimal.extend 0 digits).getD 0
    let n ← inWord (if negative then -n else n)
    some (.integer n, rest)
  else
    let fraction := fraction.getD []
    if !negative && overflows (digits ++ fraction) (exponent.getD 0 - fraction.length) then none
    else some (.fraction, rest)

def twoDigits (low high : Nat) : Reader Nat
  | a :: b :: rest => do
      let n ← Decimal.natural? [a, b]
      if low ≤ n ∧ n ≤ high then some (n, rest) else none
  | _ => none

def mark (c : Char) : Text → Option Text
  | d :: rest => if c = d then some rest else none
  | [] => none

def daysOf (year month : Nat) : Nat :=
  if month = 2 then
    if year % 4 = 0 ∧ (year % 100 ≠ 0 ∨ year % 400 = 0) then 29 else 28
  else if month = 4 ∨ month = 6 ∨ month = 9 ∨ month = 11 then 30
  else 31

def time (text : Text) : Option Text := do
  let (_, rest) ← twoDigits 0 23 text
  let (_, rest) ← twoDigits 0 59 (← mark ':' rest)
  let (_, rest) ← twoDigits 0 60 (← mark ':' rest)
  match rest with
  | '.' :: rest =>
      if (rest.takeWhile Decimal.isDigit).isEmpty then none
      else some (rest.dropWhile Decimal.isDigit)
  | _ => some rest

def offset (text : Text) : Option Text :=
  match text with
  | 'Z' :: rest | 'z' :: rest => some rest
  | '+' :: rest | '-' :: rest => do
      let (_, rest) ← twoDigits 0 23 rest
      let (_, rest) ← twoDigits 0 59 (← mark ':' rest)
      some rest
  | _ => some text

/-- A date, with a time of day behind it if there is one. A space behind a date need not
start a time. -/
def date (text : Text) : Option Text := do
  let year ← Decimal.natural? (text.take 4)
  let rest ← mark '-' (text.drop 4)
  let (month, rest) ← twoDigits 1 12 rest
  let (day, rest) ← twoDigits 1 31 (← mark '-' rest)
  if daysOf year month < day then none
  else match rest with
    | 'T' :: later | 't' :: later => (time later).bind offset
    | ' ' :: later =>
        match time later with
        | some later => offset later
        | none => some rest
    | _ => some rest

/-- Four digits and a hyphen start a date, two digits and a colon a time. -/
def looksLikeMoment (text : Text) : Bool :=
  let digits := (text.takeWhile Decimal.isDigit).length
  let next := (text.dropWhile Decimal.isDigit).head?
  (digits = 4 && next = some '-') || (digits = 2 && next = some ':')

def moment (text : Text) : Option (Value × Text) :=
  let rest := if (text.drop 2).head? = some ':' then time text else date text
  rest.map fun rest => (.moment, rest)

def special? (text : Text) : Option Text :=
  let unsigned := (sign text).2
  (word "inf".toList unsigned) <|> (word "nan".toList unsigned)

def number (text : Text) : Option (Value × Text) :=
  if looksLikeMoment text then moment text
  else match special? text with
    | some rest => some (.fraction, rest)
    | none =>
        match text with
        | '0' :: 'x' :: rest => radix 16 rest
        | '0' :: 'o' :: rest => radix 8 rest
        | '0' :: 'b' :: rest => radix 2 rest
        | _ => decimal text

end CommitLanes.Toml
