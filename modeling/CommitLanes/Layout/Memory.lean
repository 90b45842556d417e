import CommitLanes.Layout
import Mathlib.Data.Finset.Basic

/-! The ids that a layout remembers, as they are kept: a set that is asked, beside a queue that knows
which of them to forget next. -/

set_option autoImplicit false

namespace CommitLanes.Layout

/-- The oldest id stands in front of the queue. -/
structure Memory where
  table : Finset ObjectId
  queue : List ObjectId

namespace Memory

def blank : Memory :=
  ⟨∅, []⟩

def forget (size : Nat) (table : Finset ObjectId) : List ObjectId → Memory
  | [] => ⟨table, []⟩
  | oldest :: queue =>
      if size < queue.length + 1 then forget size (table.erase oldest) queue
      else ⟨table, oldest :: queue⟩

/-- Whether the id is new to the memory, and the memory with it. Without a window nothing is ever
forgotten, so no queue is kept. -/
def enter (window : Option Nat) (id : ObjectId) (memory : Memory) : Bool × Memory :=
  if id ∈ memory.table then (false, memory)
  else match window with
    | none => (true, ⟨insert id memory.table, memory.queue⟩)
    | some size => (true, forget size (insert id memory.table) (memory.queue ++ [id]))

def move (window : Option Nat) (memory : Memory) : Move → Memory
  | .push node => (memory.enter window node.id).2
  | .finish => memory

def after (window : Option Nat) (moves : List Move) : Memory :=
  moves.foldl (move window) blank

end Memory

end CommitLanes.Layout
