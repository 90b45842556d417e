import CommitLanes.Text

/-! A bounded pool of texts that repeat.

Every text that is handed out stands at a place in memory. A text that is in the pool is handed
out with the place it has there, so equal texts share one place; any other is written to a place
of its own. The pool never forgets: once it is full, new texts are written and not kept.
-/

set_option autoImplicit false

namespace CommitLanes

namespace Pool

structure Handle where
  text : Text
  place : Nat
  deriving DecidableEq, Repr

def Handle.sharesWith (a b : Handle) : Bool :=
  a.place = b.place

end Pool

structure Pool where
  capacity : Nat
  longest : Nat
  entries : List Pool.Handle
  hits : Nat
  /-- How many texts were written to memory, pooled or not; the next one goes to this place. -/
  written : Nat

namespace Pool

def empty (capacity longest : Nat) : Pool :=
  ⟨capacity, longest, [], 0, 0⟩

def standard : Pool :=
  empty 4096 256

def size (pool : Pool) : Nat :=
  pool.entries.length

def isEmpty (pool : Pool) : Bool :=
  pool.entries.isEmpty

def hasRoomFor (pool : Pool) (text : Text) : Bool :=
  text.size ≤ pool.longest && pool.size < pool.capacity

def fresh (pool : Pool) (text : Text) : Handle :=
  ⟨text, pool.written⟩

def keep (pool : Pool) (text : Text) : Pool :=
  { pool with entries := pool.entries ++ [pool.fresh text], written := pool.written + 1 }

def refuse (pool : Pool) : Pool :=
  { pool with written := pool.written + 1 }

def intern (pool : Pool) (text : Text) : Handle × Pool :=
  match pool.entries.find? fun entry => entry.text = text with
  | some entry => (entry, { pool with hits := pool.hits + 1 })
  | none => (pool.fresh text, if pool.hasRoomFor text then pool.keep text else pool.refuse)

def internAll (pool : Pool) : List Text → List Handle × Pool
  | [] => ([], pool)
  | text :: rest =>
      let (handle, pool) := pool.intern text
      let (handles, pool) := pool.internAll rest
      (handle :: handles, pool)

@[simp] theorem text_intern (pool : Pool) (text : Text) : (pool.intern text).1.text = text := by
  unfold intern
  cases found : pool.entries.find? fun entry => entry.text = text with
  | some entry => simpa using List.find?_some found
  | none => rfl

end Pool

end CommitLanes
