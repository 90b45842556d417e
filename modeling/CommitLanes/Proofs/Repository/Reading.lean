import CommitLanes.Repository.History

/-! A log that is read piece by piece is read whole.

However small the pieces, they are the records in their order, each byte once. Then the fault
is told, if there is one, and nothing comes any more.
-/

set_option autoImplicit false

namespace CommitLanes.Repository.History

/-- Bytes cut into pieces, none of them empty and none longer than there is room for it. -/
structure Cut (sizes : Nat → Nat) (bytes : Bytes) (pieces : List Bytes) : Prop where
  whole : pieces.flatten = bytes
  fits : ∀ call piece, pieces[call]? = some piece → piece ≠ [] ∧ piece.length ≤ sizes call

/-- What the reading gives that comes behind so many others: a piece, or the fault once there are
no more, or nothing. -/
def expected (pieces : List Bytes) (fault : Option Fault) (call : Nat) : Reading :=
  (pieces.map .bytes ++ (fault.map .failed).toList)[call]?.getD (.bytes [])

namespace Reader

def left (reader : Reader) : Bytes :=
  reader.begun ++ reader.records.flatten

def spent : Reader :=
  ⟨[], [], none⟩

def after (sizes : Nat → Nat) (reader : Reader) : Nat → Reader
  | 0 => reader
  | calls + 1 => ((reader.after sizes calls).read (sizes calls)).2

def reading (sizes : Nat → Nat) (reader : Reader) (call : Nat) : Reading :=
  ((reader.after sizes call).read (sizes call)).1

variable {reader : Reader} {size : Nat} {sizes : Nat → Nat} {begun record : Bytes} {records : List Bytes}
  {fault : Option Fault}

section Read

theorem read_of_begun (some : begun ≠ []) (size : Nat) (records : List Bytes) (fault : Option Fault) :
    read size ⟨begun, records, fault⟩ = (.bytes (begun.take size), ⟨begun.drop size, records, fault⟩) := by
  cases records <;> simp [read, readFrom, some]

theorem read_of_record (size : Nat) (record : Bytes) (records : List Bytes) (fault : Option Fault) :
    read size ⟨[], record :: records, fault⟩ = read size ⟨record, records, fault⟩ := by
  simp [read, readFrom]

theorem read_of_end (size : Nat) (fault : Option Fault) :
    read size ⟨[], [], fault⟩ = ((fault.map Reading.failed).getD (.bytes []), spent) := by
  cases fault <;> rfl

theorem read_of_left_nil (none : reader.left = []) (size : Nat) :
    reader.read size = ((reader.fault.map Reading.failed).getD (.bytes []), spent) := by
  obtain ⟨begun, records, fault⟩ := reader
  obtain ⟨rfl, empty⟩ := List.append_eq_nil_iff.mp none
  induction records with
  | nil => exact read_of_end size fault
  | cons record records ih =>
      obtain ⟨rfl, others⟩ := List.append_eq_nil_iff.mp empty
      rw [read_of_record]
      exact ih others others

theorem read_of_left (some : reader.left ≠ []) (room : 0 < size) :
    ∃ bytes later, reader.read size = (.bytes bytes, later) ∧ bytes ≠ [] ∧ bytes.length ≤ size ∧
      reader.left = bytes ++ later.left ∧ later.fault = reader.fault := by
  obtain ⟨begun, records, fault⟩ := reader
  -- Empty records are passed over until there is something to read.
  induction records generalizing begun with
  | nil =>
      have begunSome : begun ≠ [] := by simpa [left] using some
      refine ⟨_, _, read_of_begun begunSome size [] fault, ?_, List.length_take_le .., ?_, rfl⟩
      · simp [begunSome, Nat.ne_of_gt room]
      · simp [left]
  | cons record records ih =>
      by_cases none : begun = []
      · subst none
        rw [read_of_record]
        exact ih record some
      · refine ⟨_, _, read_of_begun none size _ fault, ?_, List.length_take_le .., ?_, rfl⟩
        · simp [none, Nat.ne_of_gt room]
        · simp only [left, ← List.append_assoc, List.take_append_drop]

end Read

section Calls

theorem after_succ (sizes : Nat → Nat) (reader : Reader) (calls : Nat) :
    reader.after sizes (calls + 1) = (reader.read (sizes 0)).2.after (fun call => sizes (call + 1)) calls := by
  induction calls with
  | zero => rfl
  | succ calls ih => rw [after, ih, after]

theorem reading_succ (sizes : Nat → Nat) (reader : Reader) (call : Nat) :
    reader.reading sizes (call + 1) = (reader.read (sizes 0)).2.reading (fun call => sizes (call + 1)) call := by
  rw [reading, after_succ, reading]

theorem reading_spent (sizes : Nat → Nat) (call : Nat) : spent.reading sizes call = .bytes [] := by
  have still : spent.after sizes call = spent := by
    induction call with
    | zero => rfl
    | succ call ih =>
        rw [after, ih]
        rfl
  rw [reading, still]
  rfl

theorem exists_cut (room : ∀ call, 0 < sizes call) (reader : Reader) :
    ∃ pieces, Cut sizes reader.left pieces ∧ ∀ call, reader.reading sizes call = expected pieces reader.fault call := by
  -- A reading leaves fewer bytes than there were, or there were none.
  induction length : reader.left.length using Nat.strongRecOn generalizing reader sizes with
  | ind _ ih =>
      by_cases none : reader.left = []
      · refine ⟨[], ⟨none.symm, by simp⟩, fun call => ?_⟩
        cases call with
        | zero =>
            rw [reading, after, read_of_left_nil none]
            cases fault : reader.fault <;> rfl
        | succ call =>
            rw [reading_succ, read_of_left_nil none, reading_spent]
            cases fault : reader.fault <;> rfl
      · obtain ⟨bytes, later, read, some, fits, same, fault⟩ := read_of_left none (room 0)
        have shorter : later.left.length < reader.left.length := by
          rw [same, List.length_append]
          exact Nat.lt_add_of_pos_left (List.length_pos_iff.mpr some)
        obtain ⟨pieces, cut, readings⟩ := ih _ (length ▸ shorter) (fun call => room (call + 1)) later rfl
        refine ⟨bytes :: pieces, ⟨by rw [List.flatten_cons, cut.whole, same], fun call piece found => ?_⟩,
          fun call => ?_⟩
        · cases call with
          | zero =>
              cases found
              exact ⟨some, fits⟩
          | succ call => exact cut.fits call piece found
        · cases call with
          | zero => rw [reading, after, read]; rfl
          | succ call =>
              rw [reading_succ, read, readings call, fault]
              rfl

end Calls

end Reader

end CommitLanes.Repository.History
