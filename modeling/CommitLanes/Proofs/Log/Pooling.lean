import CommitLanes.Proofs.Log.Roundtrip
import CommitLanes.Proofs.Pool

/-! Decoding with a pool.

The names of a commit are read back out of the pool that the decoder carries from record to record,
and still no commit tells of the records before it. What the pool goes through is in turn told by
the commits alone: a record that is malformed is found out before the pool is asked for anything.
-/

set_option autoImplicit false

namespace CommitLanes.Log.Decoder

variable {decoder other : Decoder} {capacity longest : Nat}

/-- Decodes one raw record after another, each under its number, and goes on behind a malformed one. -/
def decodeEach (decoder : Decoder) : List (Bytes × Nat) → List (Except Fault Commit) × Decoder
  | [] => ([], decoder)
  | (raw, number) :: rest =>
      let (answer, decoder) := decoder.decode raw number
      let (answers, decoder) := decoder.decodeEach rest
      (answer :: answers, decoder)

def pooledIn : Except Fault Commit → List Text
  | .ok commit => pooled commit
  | .error _ => []

def afresh (decoder : Decoder) (capacity longest : Nat) : Decoder :=
  { decoder with pool := .empty capacity longest }

@[simp] theorem hash_afresh (decoder : Decoder) (capacity longest : Nat) :
    (decoder.afresh capacity longest).hash = decoder.hash := rfl

@[simp] theorem encoding_afresh (decoder : Decoder) (capacity longest : Nat) :
    (decoder.afresh capacity longest).encoding = decoder.encoding := rfl

theorem commitOf_congr (encoding : decoder.encoding = other.encoding) (record : Record) :
    decoder.commitOf record = other.commitOf record := by
  rw [commitOf, commitOf, encodingFor, encodingFor, encoding]

theorem answer_congr (hash : decoder.hash = other.hash) (encoding : decoder.encoding = other.encoding)
    (raw : Bytes) (number : Nat) : (decoder.decode raw number).1 = (other.decode raw number).1 := by
  cases read : Record.ofBytes decoder.hash raw with
  | error reason => rw [decode_of_error read, decode_of_error (hash ▸ read)]
  | ok record =>
      rw [decode_of_ok read, decode_of_ok (hash ▸ read)]
      exact congrArg Except.ok (commitOf_congr encoding record)

theorem decode_snd (decoder : Decoder) (raw : Bytes) (number : Nat) :
    (decoder.decode raw number).2 =
      { decoder with pool := (decoder.pool.internAll (pooledIn (decoder.decode raw number).1)).2 } := by
  cases read : Record.ofBytes decoder.hash raw with
  | error reason =>
      rw [decode_of_error read]
      rfl
  | ok record =>
      rw [decode_of_ok read]
      rfl

theorem decodeEach_cons (decoder : Decoder) (raw : Bytes) (number : Nat) (rest : List (Bytes × Nat)) :
    decoder.decodeEach ((raw, number) :: rest) =
      ((decoder.decode raw number).1 :: ((decoder.decode raw number).2.decodeEach rest).1,
        ((decoder.decode raw number).2.decodeEach rest).2) :=
  rfl

theorem decodeEach_fst (decoder : Decoder) (requests : List (Bytes × Nat)) (capacity longest : Nat) :
    (decoder.decodeEach requests).1 =
      requests.map fun request => ((decoder.afresh capacity longest).decode request.1 request.2).1 := by
  induction requests generalizing decoder with
  | nil => rfl
  | cons request rest ih =>
      obtain ⟨raw, number⟩ := request
      have alone : (decoder.decode raw number).1 = ((decoder.afresh capacity longest).decode raw number).1 :=
        answer_congr (decoder.hash_afresh capacity longest).symm (decoder.encoding_afresh capacity longest).symm raw number
      -- The rest is decoded with another pool, and otherwise by the same decoder.
      have same : (decoder.decode raw number).2.afresh capacity longest = decoder.afresh capacity longest := by
        rw [decode_snd]
        rfl
      rw [decodeEach_cons, List.map_cons, alone, ih, same]

theorem decodeEach_snd (decoder : Decoder) (requests : List (Bytes × Nat)) :
    (decoder.decodeEach requests).2 =
      { decoder with pool := (decoder.pool.internAll ((decoder.decodeEach requests).1.flatMap pooledIn)).2 } := by
  induction requests generalizing decoder with
  | nil => rfl
  | cons request rest ih =>
      obtain ⟨raw, number⟩ := request
      rw [decodeEach_cons, List.flatMap_cons, Pool.internAll_append, ih, decode_snd]

/-- A pool makes no difference to what is decoded, whatever was decoded before, and no malformed record
makes a difference to the pool. -/
theorem pooling_is_invisible (decoder : Decoder) (requests : List (Bytes × Nat)) (capacity longest : Nat) :
    let answers := (decoder.decodeEach requests).1
    let later := (decoder.decodeEach requests).2
    answers = (requests.map fun request => ((decoder.afresh capacity longest).decode request.1 request.2).1) ∧
      later = { decoder with pool := (decoder.pool.internAll (answers.flatMap pooledIn)).2 } ∧
      ∀ raw number fault, (later.decode raw number).1 = .error fault → (later.decode raw number).2 = later := by
  intro answers later
  refine ⟨decodeEach_fst decoder requests capacity longest, decodeEach_snd decoder requests, ?_⟩
  intro raw number fault failed
  rw [decode_snd, failed]
  rfl

/-- The same record twice, with a damaged one between, and room for a single text: the name is pooled
once and found three times, and the damaged record is refused without a trace. -/
theorem pooling_is_invisible_around_damage :
    let cramped : Decoder := ⟨.sha1, .utf8, .empty 1 256⟩
    let requests := [(plainEntry.body, 0), ([0x58], 1), (plainEntry.body, 2)]
    let answers := (cramped.decodeEach requests).1
    let later := (cramped.decodeEach requests).2
    answers.map Except.isOk = [true, false, true] ∧ answers[0]? = answers[2]? ∧
      later.pool.entries.map (·.text) = ["José".toList] ∧ later.pool.hits = 3 ∧
      (later.decode [0x58] 3).2 = later := by
  intro cramped requests answers later
  obtain ⟨alone, -, failing⟩ := cramped.pooling_is_invisible requests 4096 256
  have again : answers[0]? = answers[2]? := by
    have writable : plainEntry.Writable (cramped.afresh 4096 256).hash := by decide +kernel
    rw [show answers = _ from alone]
    simp [requests, decode_of_ok (Entry.ofBytes_body writable)]
  have damaged : (later.decode [0x58] 3).1 = .error (.malformed 3 .unterminatedHeader) := rfl
  exact ⟨by decide +kernel, again, by decide +kernel, by decide +kernel, failing [0x58] 3 _ damaged⟩

end CommitLanes.Log.Decoder
