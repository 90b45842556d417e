import CommitLanes.Text

/-! Properties of characters as ranges of their codes, in ascending order. -/

set_option autoImplicit false

namespace CommitLanes.Property

abbrev Ranges := List (Nat × Nat)

def Ranges.contains (code : Nat) : Ranges → Bool
  | [] => false
  | (low, high) :: rest =>
      if code < low then false else if code ≤ high then true else Ranges.contains code rest

def has (ranges : Ranges) (c : Char) : Bool :=
  ranges.contains c.toNat

end CommitLanes.Property
