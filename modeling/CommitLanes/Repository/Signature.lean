import CommitLanes.Decimal
import CommitLanes.Text.Utf8

/-! Who did something and when: a name, an address between angle brackets, seconds since
the epoch and a time zone, on one line. The time zone does not count. -/

set_option autoImplicit false

namespace CommitLanes.Repository

structure Signature where
  name : Bytes
  email : Bytes
  seconds : Int64
  deriving DecidableEq

namespace Signature

/-- Bytes that are no part of a name or an address when they stand at an end: control
characters, the space and `, : ; < > " \ '`. -/
def isPadding (b : UInt8) : Bool :=
  b ≤ 0x20 || (Bytes.ofString ",:;<>\"\\'").contains b

def strip (bytes : Bytes) : Bytes :=
  Bytes.untilZero ((bytes.dropWhile isPadding).reverse.dropWhile isPadding).reverse

def cutLast (mark : UInt8) (bytes : Bytes) : Option (Bytes × Bytes) :=
  (Pieces.cut (· == mark) bytes.reverse).map fun (after, before) => (before.reverse, after.reverse)

/-- The address stands between the last opening and the last closing bracket. Without
anything behind it the time is the epoch. -/
def ofBytes? (bytes : Bytes) : Option Signature := do
  let (before, after) ← cutLast 0x3E bytes
  if after.contains 0x3C then none
  else
    let (name, email) ← cutLast 0x3C before
    -- A single byte behind the bracket is the space before a time that is missing.
    let seconds ← if after.length < 2 then some 0 else Decimal.leading? (after.drop 1)
    some ⟨strip name, strip email, seconds⟩

def line? (word : String) (text : Bytes) : Option (Signature × Bytes) :=
  match Pieces.cut Bytes.isNewline text with
  | none => none
  | some (line, rest) =>
      match (Bytes.after? (Bytes.ofString word) line).bind ofBytes? with
      | some signature => some (signature, rest)
      | none => none

theorem length_of_line? {word : String} {text rest : Bytes} {signature : Signature}
    (found : line? word text = some (signature, rest)) : rest.length < text.length := by
  unfold line? at found
  split at found
  · cases found
  next cut =>
    split at found
    · cases found
      exact Pieces.length_of_cut cut
    · cases found

end Signature

end CommitLanes.Repository
