import CommitLanes.Log.Decoder
import CommitLanes.Log.Entry
import CommitLanes.Log.Source

/-! A log read record by record.

Pieces of blanks are no records. The first thing that goes wrong ends the reading: a
damaged record gives no hint where the next good one would start.
-/

set_option autoImplicit false

namespace CommitLanes.Log

structure Reader where
  source : Source
  decoder : Decoder
  records : Nat
  done : Bool

namespace Reader

def isSeparator (b : UInt8) : Bool :=
  b == separator

def start (source : Source) (decoder : Decoder) : Reader :=
  ⟨source, decoder, 0, false⟩

def nextPiece (source : Source) : Source.Reply :=
  match _ : source.next isSeparator with
  | .piece bytes rest => if Bytes.allBlank bytes then nextPiece rest else .piece bytes rest
  | .ended => .ended
  | .failed cause rest => .failed cause rest
  termination_by source.size
  decreasing_by exact Source.size_next (by assumption)

def next (reader : Reader) : Option (Except Fault Commit) × Reader :=
  if reader.done then (none, reader)
  else match nextPiece reader.source with
    | .ended => (none, { reader with source := .ofBytes [], done := true })
    | .failed cause rest =>
        (some (.error (.unreadable cause)), { reader with source := rest, done := true })
    | .piece bytes rest =>
        let (result, decoder) := reader.decoder.decode (Bytes.trimStart bytes) reader.records
        let failed := match result with
          | .ok _ => false
          | .error _ => true
        (some result, ⟨rest, decoder, reader.records + 1, failed⟩)

theorem size_nextPiece {source rest : Source} {piece : Bytes}
    (found : nextPiece source = .piece piece rest) : rest.size < source.size := by
  fun_induction nextPiece source with
  | case1 source bytes later taken _ ih =>
      exact Nat.lt_trans (ih found) (Source.size_next taken)
  | case2 source bytes later taken _ =>
      cases found
      exact Source.size_next taken
  | case3 => cases found
  | case4 => cases found

theorem size_next {reader : Reader} {commit : Commit}
    (found : reader.next.1 = some (.ok commit)) : reader.next.2.source.size < reader.source.size := by
  unfold next at found ⊢
  split
  next done => simp [done] at found
  next running =>
    simp only [running, Bool.false_eq_true, if_false] at found
    split
    next reply => simp [reply] at found
    next reply => simp [reply] at found
    next reply => exact size_nextPiece reply

def items (reader : Reader) : List (Except Fault Commit) :=
  match _ : reader.next.1 with
  | none => []
  | some (.error fault) => [.error fault]
  | some (.ok commit) => .ok commit :: items reader.next.2
  termination_by reader.source.size
  decreasing_by exact size_next (by assumption)

theorem items_eq (reader : Reader) :
    reader.items =
      match reader.next.1 with
      | none => []
      | some (.error fault) => [.error fault]
      | some (.ok commit) => .ok commit :: reader.next.2.items := by
  rw [items]
  split <;> simp_all

end Reader

end CommitLanes.Log
