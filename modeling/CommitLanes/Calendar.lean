import CommitLanes.Decimal

/-! Days of the Gregorian calendar, extended to all years. -/

set_option autoImplicit false

namespace CommitLanes.Calendar

structure Date where
  year : Int
  month : Nat
  day : Nat
  deriving DecidableEq, Repr

/-- The date `days` after the first of January 1970. Years are counted from March, so
that a leap day is the last day of its year, and in eras of four hundred years. -/
def ofDays (days : Int) : Date :=
  let shifted := days + 719468
  let era := Int.fdiv shifted 146097
  let dayOfEra := (Int.fmod shifted 146097).toNat
  let yearOfEra := (dayOfEra - dayOfEra / 1460 + dayOfEra / 36524 - dayOfEra / 146096) / 365
  let dayOfYear := dayOfEra - (365 * yearOfEra + yearOfEra / 4 - yearOfEra / 100)
  let monthFromMarch := (5 * dayOfYear + 2) / 153
  let day := dayOfYear - (153 * monthFromMarch + 2) / 5 + 1
  let month := if monthFromMarch < 10 then monthFromMarch + 3 else monthFromMarch - 9
  ⟨yearOfEra + era * 400 + (if month ≤ 2 then 1 else 0), month, day⟩

def firstYear : Int := -262143

def lastYear : Int := 262142

def ofSeconds? (seconds : Int64) : Option Date :=
  let date := ofDays (Int.fdiv seconds.toInt 86400)
  if firstYear ≤ date.year ∧ date.year ≤ lastYear then some date else none

/-- Four digits; years outside of those have a sign as well. -/
def yearText (year : Int) : Text :=
  if 0 ≤ year ∧ year ≤ 9999 then Decimal.padded 4 year.toNat
  else (if year < 0 then '-' else '+') :: Decimal.padded 4 year.natAbs

def Date.text (date : Date) : Text :=
  Text.joined ['-'] [yearText date.year, Decimal.padded 2 date.month, Decimal.padded 2 date.day]

end CommitLanes.Calendar
