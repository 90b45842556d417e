import CommitLanes.Bytes
import CommitLanes.Pieces

/-! Bytes that arrive over time.

A source holds what has arrived and not been read, and everything still to come: more
bytes, an interruption that means nothing, or a failure. Pieces between separators are
taken from its front.
-/

set_option autoImplicit false

namespace CommitLanes.Log

inductive Arrival where
  | data (bytes : Bytes)
  | interruption
  | failure (cause : String)
  deriving DecidableEq, Repr

structure Source where
  held : Bytes
  arrivals : List Arrival

namespace Source

def ofBytes (bytes : Bytes) : Source :=
  ⟨bytes, []⟩

def deliveries (size : Nat) (bytes : Bytes) : List Arrival :=
  if size = 0 then (if bytes.isEmpty then [] else [.data bytes])
  else match bytes with
    | [] => []
    | b :: rest => .data ((b :: rest).take size) :: deliveries size ((b :: rest).drop size)
  termination_by bytes.length
  decreasing_by simp only [List.length_drop, List.length_cons]; omega

inductive Reply where
  | piece (bytes : Bytes) (rest : Source)
  | ended
  /-- The bytes since the last separator are lost. -/
  | failed (cause : String) (rest : Source)

def Reply.after (bytes : Bytes) : Reply → Reply
  | .piece more rest => .piece (bytes ++ more) rest
  | .ended => if bytes.isEmpty then .ended else .piece bytes ⟨[], []⟩
  | .failed cause rest => .failed cause rest

def nextFrom (isSeparator : UInt8 → Bool) (held : Bytes) : List Arrival → Reply
  | [] =>
      match Pieces.cut isSeparator held with
      | some (piece, rest) => .piece piece ⟨rest, []⟩
      | none => Reply.ended.after held
  | arrival :: later =>
      match Pieces.cut isSeparator held with
      | some (piece, rest) => .piece piece ⟨rest, arrival :: later⟩
      | none =>
          match arrival with
          | .data bytes => (nextFrom isSeparator bytes later).after held
          | .interruption => (nextFrom isSeparator [] later).after held
          | .failure cause => .failed cause ⟨[], later⟩

/-- The last piece needs no separator behind it. -/
def next (isSeparator : UInt8 → Bool) (source : Source) : Reply :=
  nextFrom isSeparator source.held source.arrivals

def Arrival.size : Arrival → Nat
  | .data bytes => bytes.length + 1
  | .interruption => 1
  | .failure _ => 1

def sizeOfAll : List Arrival → Nat
  | [] => 0
  | arrival :: later => Arrival.size arrival + sizeOfAll later

/-- Bounds how many pieces can still be taken. -/
def size (source : Source) : Nat :=
  source.held.length + sizeOfAll source.arrivals

theorem size_after {bytes piece : Bytes} {rest : Source} {reply : Reply} {bound : Nat}
    (smaller : ∀ more later, reply = .piece more later → later.size < bound)
    (found : reply.after bytes = .piece piece rest) : rest.size < bytes.length + bound + 1 := by
  cases reply with
  | piece more later =>
      simp only [Reply.after, Reply.piece.injEq] at found
      have := smaller more later rfl
      rw [← found.2]
      omega
  | ended =>
      simp only [Reply.after] at found
      split at found
      · cases found
      · cases found
        simp [size, sizeOfAll]
  | failed cause later => cases found

theorem size_nextFrom {isSeparator : UInt8 → Bool} {held piece : Bytes} {arrivals : List Arrival}
    {rest : Source} (found : nextFrom isSeparator held arrivals = .piece piece rest) :
    rest.size < held.length + sizeOfAll arrivals := by
  induction arrivals generalizing held piece rest with
  | nil =>
      simp only [nextFrom] at found
      split at found
      next cut =>
        cases found
        simpa [size] using Pieces.length_of_cut cut
      next =>
        cases held with
        | nil => simp [Reply.after] at found
        | cons b tail =>
            simp only [Reply.after, List.isEmpty_cons, Bool.false_eq_true, if_false,
              Reply.piece.injEq] at found
            simp [← found.2, size, sizeOfAll]
  | cons arrival later ih =>
      simp only [nextFrom] at found
      split at found
      next cut =>
        cases found
        have := Pieces.length_of_cut cut
        simp [size, sizeOfAll]
        omega
      next =>
        cases arrival with
        | data bytes =>
            have := size_after (fun more later same => ih same) found
            simp [sizeOfAll, Arrival.size]
            omega
        | interruption =>
            have := size_after (fun more later same => ih same) found
            simp [sizeOfAll, Arrival.size] at this ⊢
            omega
        | failure cause => cases found

theorem size_next {isSeparator : UInt8 → Bool} {source rest : Source} {piece : Bytes}
    (found : source.next isSeparator = .piece piece rest) : rest.size < source.size :=
  size_nextFrom found

end Source

end CommitLanes.Log
