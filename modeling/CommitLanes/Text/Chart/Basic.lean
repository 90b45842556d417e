import CommitLanes.Text

/-! Charts of coded character sets.

A chart lists its characters row by row. A hyphen is an unassigned cell, and so is
everything behind the last character of a row; no chart holds the hyphen itself.
-/

set_option autoImplicit false

namespace CommitLanes

structure Chart where
  width : Nat
  rows : Array (Array Char)

namespace Chart

def ofRows (width : Nat) (rows : List String) : Chart :=
  ⟨width, (rows.map fun row => row.toList.toArray).toArray⟩

/-- The character of a cell, cells being counted row by row. -/
def get? (chart : Chart) (cell : Nat) : Option Char := do
  let row ← chart.rows[cell / chart.width]?
  let c ← row[cell % chart.width]?
  if c = '-' then none else some c

end Chart

end CommitLanes
