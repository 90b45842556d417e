import CommitLanes.Lane.Edge

/-! The counts of a ledger in the tables that hold them.

A table is never made shorter. Where the lanes in use end is told by a mark beside it, which goes
up with every edge and is brought down past the lanes that have none. There is no result where a
place outside the table is read, or a count outgrows its 32 bits.
-/

set_option autoImplicit false

namespace CommitLanes.Lane

structure Gauge where
  counts : List Nat
  mark : Nat
  deriving DecidableEq, Repr

namespace Gauge

def empty : Gauge :=
  ⟨[], 0⟩

def count (gauge : Gauge) (lane : Lane) : Nat :=
  gauge.counts[lane]?.getD 0

def reaching (counts : List Nat) (lane : Lane) : List Nat :=
  if counts.length ≤ lane then counts ++ List.replicate (lane + 1 - counts.length) 0 else counts

def bump? (gauge : Gauge) (lane : Lane) : Option Gauge := do
  let counts := reaching gauge.counts lane
  let count ← counts[lane]?
  if count + 1 < UInt32.size then return ⟨counts.set lane (count + 1), max gauge.mark (lane + 1)⟩ else none

def lowered? (counts : List Nat) : Nat → Option Nat
  | 0 => some 0
  | mark + 1 => do
      let count ← counts[mark]?
      if count = 0 then lowered? counts mark else return mark + 1

/-- A count stops at zero, and a lane that the table does not reach has none to lower. -/
def drop? (gauge : Gauge) (lane : Lane) : Option Gauge := do
  let counts := gauge.counts.modify lane (· - 1)
  return ⟨counts, ← lowered? counts gauge.mark⟩

end Gauge

end CommitLanes.Lane
