import CommitLanes.Log.Reader
import CommitLanes.Proofs.Pieces

/-! The reader gives, call by call, what a log cut all at once would give.

Cut at once, a log is the list of its pieces without those of blanks. The reader takes one of
them with each call, however its source is filled, and holds the others back unread.
-/

set_option autoImplicit false

namespace CommitLanes.Log

/-- The records of a log, not decoded: its pieces but those of blanks, each from where it begins. -/
def rawRecords (bytes : Bytes) : List Bytes :=
  ((Pieces.split Reader.isSeparator bytes).filter fun piece => !Bytes.allBlank piece).map Bytes.trimStart

theorem rawRecords_of_cut {bytes piece rest : Bytes}
    (found : Pieces.cut Reader.isSeparator bytes = some (piece, rest)) :
    rawRecords bytes =
      if Bytes.allBlank piece then rawRecords rest else Bytes.trimStart piece :: rawRecords rest := by
  rw [rawRecords, Pieces.split_of_cut found]
  cases blank : Bytes.allBlank piece <;> simp [rawRecords, blank]

theorem rawRecords_of_uncut {bytes : Bytes} (uncut : Pieces.cut Reader.isSeparator bytes = none) :
    rawRecords bytes = if Bytes.allBlank bytes then [] else [Bytes.trimStart bytes] := by
  rw [rawRecords, Pieces.split_of_uncut uncut]
  cases blank : Bytes.allBlank bytes <;> simp [blank]

namespace Source

/-- What arrives before anything fails. -/
def arriving : List Arrival → Bytes
  | [] => []
  | .data bytes :: later => bytes ++ arriving later
  | .interruption :: later => arriving later
  | .failure _ :: _ => []

def firstFailure : List Arrival → Option String
  | [] => none
  | .data _ :: later => firstFailure later
  | .interruption :: later => firstFailure later
  | .failure cause :: _ => some cause

def reachable (source : Source) : Bytes :=
  source.held ++ arriving source.arrivals

def failure? (source : Source) : Option String :=
  firstFailure source.arrivals

/-- The bytes of whole pieces: a failure makes a fragment of the last one. -/
def whole (source : Source) : Bytes :=
  match source.failure? with
  | none => source.reachable
  | some _ => Pieces.closed Reader.isSeparator source.reachable

def raws (source : Source) : List Bytes :=
  rawRecords source.whole

variable {source : Source} {bytes piece : Bytes} {held : Bytes} {arrivals : List Arrival} {cause : String}

section Next

/-- What a reply to the request for a piece says of the bytes and the failure ahead. -/
def Reply.Tells (bytes : Bytes) (failure? : Option String) : Reply → Prop
  | .piece piece later =>
      later.failure? = failure? ∧
        (Pieces.cut Reader.isSeparator bytes = some (piece, later.reachable) ∨
          Pieces.cut Reader.isSeparator bytes = none ∧ failure? = none ∧ piece = bytes ∧ later = ⟨[], []⟩)
  | .ended => bytes = [] ∧ failure? = none
  | .failed cause _ => Pieces.cut Reader.isSeparator bytes = none ∧ failure? = some cause

theorem Reply.Tells.after {reply : Reply} {failure? : Option String}
    (uncut : Pieces.cut Reader.isSeparator held = none) (tells : reply.Tells bytes failure?) :
    (reply.after held).Tells (held ++ bytes) failure? := by
  have glued := Pieces.cut_append (Pieces.cut_eq_none_iff.mp uncut) bytes
  cases reply with
  | piece more later =>
      obtain ⟨same, found | ⟨missing, calm, rfl, rfl⟩⟩ := tells
      · exact ⟨same, .inl (by rw [glued, found]; rfl)⟩
      · exact ⟨same, .inr ⟨by rw [glued, missing]; rfl, calm, rfl, rfl⟩⟩
  | ended =>
      obtain ⟨rfl, calm⟩ := tells
      cases held with
      | nil => exact ⟨rfl, calm⟩
      | cons b rest => exact ⟨calm.symm, .inr ⟨by rw [glued]; rfl, calm, by simp, rfl⟩⟩
  | failed cause later =>
      obtain ⟨missing, failed⟩ := tells
      exact ⟨by rw [glued, missing]; rfl, failed⟩

theorem tells_of_held {rest : Bytes} (found : Pieces.cut Reader.isSeparator held = some (piece, rest))
    (arrivals : List Arrival) :
    (Reply.piece piece ⟨rest, arrivals⟩).Tells (held ++ arriving arrivals) (firstFailure arrivals) :=
  ⟨rfl, .inl (Pieces.cut_append_right found _)⟩

theorem tells_nextFrom (held : Bytes) (arrivals : List Arrival) :
    (nextFrom Reader.isSeparator held arrivals).Tells (held ++ arriving arrivals)
      (firstFailure arrivals) := by
  -- What is held without a separator stands in front of the reply to what arrives next.
  induction arrivals generalizing held with
  | nil =>
      simp only [nextFrom]
      split
      next found => exact tells_of_held found []
      next uncut => exact Reply.Tells.after uncut ⟨rfl, rfl⟩
  | cons arrival later ih =>
      simp only [nextFrom]
      split
      next found => exact tells_of_held found (arrival :: later)
      next uncut =>
        cases arrival with
        | data bytes => exact (ih bytes).after uncut
        | interruption => exact (ih []).after uncut
        | failure cause => exact ⟨by simpa [arriving] using uncut, rfl⟩

theorem tells_next (source : Source) :
    (source.next Reader.isSeparator).Tells source.reachable source.failure? :=
  tells_nextFrom source.held source.arrivals

def Reply.TellsRecord (raws : List Bytes) (failure? : Option String) : Reply → Prop
  | .piece piece later => later.failure? = failure? ∧ raws = Bytes.trimStart piece :: later.raws
  | .ended => raws = [] ∧ failure? = none
  | .failed cause _ => raws = [] ∧ failure? = some cause

theorem raws_of_cut {piece : Bytes} {later : Source} (same : later.failure? = source.failure?)
    (found : Pieces.cut Reader.isSeparator source.reachable = some (piece, later.reachable)) :
    source.raws = if Bytes.allBlank piece then later.raws else Bytes.trimStart piece :: later.raws := by
  have cut : Pieces.cut Reader.isSeparator source.whole = some (piece, later.whole) := by
    unfold whole
    rw [same]
    -- A fragment is left out at the end, behind the separator that was found here.
    cases source.failure? with
    | none => exact found
    | some cause => exact Pieces.cut_closed found
  exact rawRecords_of_cut cut

theorem raws_of_calm (calm : source.failure? = none) : source.raws = rawRecords source.reachable := by
  rw [raws, whole, calm]

theorem raws_ofBytes (bytes : Bytes) : (ofBytes bytes).raws = rawRecords bytes := by
  rw [raws_of_calm rfl, reachable, ofBytes, arriving, List.append_nil]

theorem raws_of_fragment (uncut : Pieces.cut Reader.isSeparator source.reachable = none)
    (failed : source.failure? = some cause) : source.raws = [] := by
  rw [raws, whole, failed, Pieces.closed_of_uncut uncut]
  rfl

theorem raws_of_taken {later : Source} (taken : source.next Reader.isSeparator = .piece piece later) :
    later.failure? = source.failure? ∧
      source.raws = if Bytes.allBlank piece then later.raws else Bytes.trimStart piece :: later.raws := by
  have tells := tells_next source
  rw [taken] at tells
  obtain ⟨same, found | ⟨uncut, calm, rfl, rfl⟩⟩ := tells
  · exact ⟨same, raws_of_cut same found⟩
  · exact ⟨same, by rw [raws_of_calm calm, rawRecords_of_uncut uncut]; rfl⟩

theorem tellsRecord_nextPiece (source : Source) :
    (Reader.nextPiece source).TellsRecord source.raws source.failure? := by
  fun_induction Reader.nextPiece source with
  | case1 source piece later taken blank ih =>
      obtain ⟨same, left⟩ := raws_of_taken taken
      rw [left, if_pos blank, ← same]
      exact ih
  | case2 source piece later taken full =>
      obtain ⟨same, left⟩ := raws_of_taken taken
      rw [left, if_neg full]
      exact ⟨same, rfl⟩
  | case3 source ended =>
      have tells := tells_next source
      rw [ended] at tells
      exact ⟨by rw [raws_of_calm tells.2, tells.1]; rfl, tells.2⟩
  | case4 source cause later failed =>
      have tells := tells_next source
      rw [failed] at tells
      exact ⟨raws_of_fragment tells.1 tells.2, tells.2⟩

end Next

end Source

namespace Decoder

/-- Decodes records one after another with one decoder, up to and including the first that is
malformed. The first of them has this number in its log. -/
def decodeAll (decoder : Decoder) (number : Nat) : List Bytes → List (Except Fault Commit) × Decoder
  | [] => ([], decoder)
  | raw :: rest =>
      match decoder.decode raw number with
      | (.error fault, later) => ([.error fault], later)
      | (.ok commit, later) => (later.decodeAll (number + 1) rest).map (.ok commit :: ·) id

variable {decoder later : Decoder} {number : Nat} {raw : Bytes} {fault : Fault} {commit : Commit}

theorem decodeAll_of_error (malformed : decoder.decode raw number = (.error fault, later))
    (rest : List Bytes) :
    decoder.decodeAll number (raw :: rest) = ([.error fault], later) := by
  rw [decodeAll, malformed]

theorem decodeAll_of_ok (sound : decoder.decode raw number = (.ok commit, later)) (rest : List Bytes) :
    decoder.decodeAll number (raw :: rest) =
      (later.decodeAll (number + 1) rest).map (.ok commit :: ·) id := by
  rw [decodeAll, sound]

theorem malformed_of_decode (malformed : decoder.decode raw number = (.error fault, later)) :
    ∃ reason, fault = .malformed number reason := by
  unfold decode at malformed
  split at malformed
  next reason _ => 
    cases malformed
    exact ⟨reason, rfl⟩
  next => cases malformed

end Decoder

namespace Reader

def after (reader : Reader) : Nat → Reader
  | 0 => reader
  | calls + 1 => reader.next.2.after calls

def call (reader : Reader) (calls : Nat) : Option (Except Fault Commit) :=
  (reader.after calls).next.1

/-- What a reader still has to say when it has given these items. -/
def lastWord (items : List (Except Fault Commit)) (failure? : Option String) :
    List (Except Fault Commit) :=
  if items.all Except.isOk then failure?.toList.map fun cause => .error (.unreadable cause) else []

variable {reader : Reader} {raw : Bytes} {rest : List Bytes}

section Next

theorem next_of_done (done : reader.done = true) : reader.next = (none, reader) := by
  rw [next, if_pos done]

theorem next_of_end (running : reader.done = false) (exhausted : reader.source.raws = []) :
    ∃ later : Source, (reader.source.failure? = none → later.raws = []) ∧
      reader.next = (reader.source.failure?.map fun cause => .error (.unreadable cause),
        { reader with source := later, done := true }) := by
  have tells := Source.tellsRecord_nextPiece reader.source
  rw [next, if_neg (by simp [running])]
  cases reply : nextPiece reader.source with
  | piece piece later =>
      rw [reply, exhausted] at tells
      exact absurd tells.2.symm (List.cons_ne_nil _ _)
  | ended =>
      rw [reply] at tells
      exact ⟨.ofBytes [], fun _ => rfl, by rw [tells.2]; rfl⟩
  | failed cause later =>
      rw [reply] at tells
      exact ⟨later, by simp [tells.2], by rw [tells.2]; rfl⟩

/-- With a record ahead, a call takes that one and decodes it. -/
theorem next_of_raw (running : reader.done = false) (more : reader.source.raws = raw :: rest) :
    ∃ later : Source, later.raws = rest ∧ later.failure? = reader.source.failure? ∧
      reader.next = (some (reader.decoder.decode raw reader.records).1,
        ⟨later, (reader.decoder.decode raw reader.records).2, reader.records + 1,
          !(reader.decoder.decode raw reader.records).1.isOk⟩) := by
  have tells := Source.tellsRecord_nextPiece reader.source
  rw [next, if_neg (by simp [running])]
  cases reply : nextPiece reader.source with
  | piece piece later =>
      rw [reply, more] at tells
      obtain ⟨rfl, rfl⟩ := List.cons.inj tells.2
      refine ⟨later, rfl, tells.1, ?_⟩
      simp only []
      rcases reader.decoder.decode (Bytes.trimStart piece) reader.records with ⟨fault | commit, decoder⟩
      · rfl
      · rfl
  | ended =>
      rw [reply, more] at tells
      exact absurd tells.1 (List.cons_ne_nil _ _)
  | failed cause later =>
      rw [reply, more] at tells
      exact absurd tells.1 (List.cons_ne_nil _ _)

end Next

section Calls

theorem after_of_done (done : reader.done = true) (calls : Nat) : reader.after calls = reader := by
  induction calls with
  | zero => rfl
  | succ calls ih => rw [after, next_of_done done, ih]

/-- The state of a reader after some calls, told from the records that were ahead of it. -/
structure Reached (reader : Reader) (calls : Nat) (items : List (Except Fault Commit)) : Prop where
  call : reader.call calls = (items ++ lastWord items reader.source.failure?)[calls]?
  records : (reader.after calls).records = reader.records + min calls items.length
  decoder : (reader.after calls).decoder =
    (reader.decoder.decodeAll reader.records (reader.source.raws.take (min calls items.length))).2
  source : reader.source.failure? = none →
    (reader.after calls).source.raws = reader.source.raws.drop (min calls items.length)

theorem reached_of_end (running : reader.done = false) (exhausted : reader.source.raws = [])
    (calls : Nat) : reader.Reached calls [] := by
  obtain ⟨later, empty, given⟩ := next_of_end running exhausted
  cases calls with
  | zero =>
      refine ⟨?_, rfl, rfl, fun _ => rfl⟩
      rw [call, after, given]
      cases reader.source.failure? <;> rfl
  | succ calls =>
      have stays : reader.after (calls + 1) = { reader with source := later, done := true } := by
        rw [after, given, after_of_done rfl]
      refine ⟨?_, ?_, ?_, fun calm => ?_⟩
      · rw [call, stays, next_of_done rfl]
        cases reader.source.failure? <;> simp [lastWord]
      · rw [stays]
        rfl
      · rw [stays, exhausted]
        rfl
      · rw [stays, exhausted]
        exact empty calm

theorem reached_of_malformed {fault : Fault} {decoder : Decoder} (running : reader.done = false)
    (more : reader.source.raws = raw :: rest)
    (malformed : reader.decoder.decode raw reader.records = (.error fault, decoder)) (calls : Nat) :
    reader.Reached calls [.error fault] := by
  obtain ⟨later, ahead, -, given⟩ := next_of_raw running more
  rw [malformed] at given
  cases calls with
  | zero =>
      refine ⟨?_, rfl, rfl, fun _ => rfl⟩
      rw [call, after, given]
      rfl
  | succ calls =>
      have stays : reader.after (calls + 1) = ⟨later, decoder, reader.records + 1, true⟩ := by
        rw [after, given]
        exact after_of_done rfl calls
      have one : min (calls + 1) 1 = 1 := by omega
      refine ⟨?_, ?_, ?_, fun _ => ?_⟩
      · rw [call, stays, next_of_done rfl]
        rfl
      · rw [stays, List.length_singleton, one]
      · rw [stays, List.length_singleton, one, more, List.take_succ_cons, List.take_zero,
          Decoder.decodeAll_of_error malformed]
      · rw [stays, List.length_singleton, one, more, ahead]
        rfl

theorem lastWord_ok (commit : Commit) (items : List (Except Fault Commit)) (failure? : Option String) :
    lastWord (.ok commit :: items) failure? = lastWord items failure? :=
  rfl

/-- After a sound record the reader goes on like one that starts behind it. -/
theorem Reached.succ {commit : Commit} {decoder : Decoder} {later : Source} {calls : Nat}
    {items : List (Except Fault Commit)}
    (more : reader.source.raws = raw :: later.raws) (same : later.failure? = reader.source.failure?)
    (sound : reader.decoder.decode raw reader.records = (.ok commit, decoder))
    (given : reader.next = (some (.ok commit), ⟨later, decoder, reader.records + 1, false⟩))
    (came : (⟨later, decoder, reader.records + 1, false⟩ : Reader).Reached calls items) :
    reader.Reached (calls + 1) (.ok commit :: items) := by
  have step : reader.after (calls + 1) =
      (⟨later, decoder, reader.records + 1, false⟩ : Reader).after calls := by
    rw [after, given]
  have taken : min (calls + 1) (items.length + 1) = min calls items.length + 1 := by omega
  have words : lastWord (.ok commit :: items) reader.source.failure? = lastWord items later.failure? := by
    rw [same, lastWord_ok]
  constructor
  · rw [Reader.call, step, words]
    exact came.call
  · rw [step, came.records, List.length_cons, taken]
    simp only []
    omega
  · rw [step, came.decoder, List.length_cons, taken, more, List.take_succ_cons,
      Decoder.decodeAll_of_ok sound]
    rfl
  · intro calm
    rw [step, came.source (same.trans calm), List.length_cons, taken, more]
    rfl

theorem reached (running : reader.done = false) (calls : Nat) :
    reader.Reached calls (reader.decoder.decodeAll reader.records reader.source.raws).1 := by
  generalize ahead : reader.source.raws = raws
  -- Each call takes one record, so the induction is on those that are ahead.
  induction raws generalizing reader calls with
  | nil => exact reached_of_end running ahead calls
  | cons raw rest ih =>
      rcases decoded : reader.decoder.decode raw reader.records with ⟨fault | commit, decoder⟩
      · rw [Decoder.decodeAll_of_error decoded]
        exact reached_of_malformed running ahead decoded calls
      · obtain ⟨later, rfl, same, given⟩ := next_of_raw running ahead
        rw [decoded] at given
        rw [Decoder.decodeAll_of_ok decoded]
        cases calls with
        | zero =>
            refine ⟨?_, rfl, rfl, fun _ => rfl⟩
            rw [call, after, given]
            rfl
        | succ calls => exact Reached.succ ahead same decoded given (ih rfl calls rfl)

theorem lastWord_of_calm (items : List (Except Fault Commit)) : lastWord items none = [] := by
  rw [lastWord]
  split <;> rfl

theorem items_eq_batch (running : reader.done = false) :
    reader.items = (reader.decoder.decodeAll reader.records reader.source.raws).1 ++
      lastWord (reader.decoder.decodeAll reader.records reader.source.raws).1 reader.source.failure? := by
  generalize ahead : reader.source.raws = raws
  induction raws generalizing reader with
  | nil =>
      obtain ⟨later, -, given⟩ := next_of_end running ahead
      rw [items_eq, given]
      cases reader.source.failure? <;> rfl
  | cons raw rest ih =>
      obtain ⟨later, rfl, same, given⟩ := next_of_raw running ahead
      rcases decoded : reader.decoder.decode raw reader.records with ⟨fault | commit, decoder⟩
      · rw [decoded] at given
        rw [items_eq, given, Decoder.decodeAll_of_error decoded]
        rfl
      · rw [decoded] at given
        have behind : (⟨later, decoder, reader.records + 1, false⟩ : Reader).items = _ := ih rfl rfl
        rw [items_eq, given, Decoder.decodeAll_of_ok decoded, ← same]
        exact congrArg (.ok commit :: ·) behind

theorem reached_ofBytes (bytes : Bytes) (decoder : Decoder) (calls : Nat) :
    (start (.ofBytes bytes) decoder).Reached calls (decoder.decodeAll 0 (rawRecords bytes)).1 := by
  have came : (start (.ofBytes bytes) decoder).Reached calls _ := reached rfl calls
  rwa [start, Source.raws_ofBytes] at came

theorem items_ofBytes (bytes : Bytes) (decoder : Decoder) :
    (start (.ofBytes bytes) decoder).items = (decoder.decodeAll 0 (rawRecords bytes)).1 := by
  have all : (start (.ofBytes bytes) decoder).items = _ := items_eq_batch rfl
  rwa [show (start (.ofBytes bytes) decoder).source.failure? = none from rfl, lastWord_of_calm, List.append_nil,
    start, Source.raws_ofBytes] at all

theorem call_ofBytes (bytes : Bytes) (decoder : Decoder) (calls : Nat) :
    (start (.ofBytes bytes) decoder).call calls = (decoder.decodeAll 0 (rawRecords bytes)).1[calls]? := by
  have came := (reached_ofBytes bytes decoder calls).call
  rwa [show (start (.ofBytes bytes) decoder).source.failure? = none from rfl, lastWord_of_calm,
    List.append_nil] at came

theorem records_ofBytes (bytes : Bytes) (decoder : Decoder) (calls : Nat) :
    ((start (.ofBytes bytes) decoder).after calls).records =
      min calls (decoder.decodeAll 0 (rawRecords bytes)).1.length := by
  have came := (reached_ofBytes bytes decoder calls).records
  rwa [show (start (.ofBytes bytes) decoder).records = 0 from rfl, Nat.zero_add] at came

end Calls

end Reader

namespace Decoder

/-- Only the last record can be malformed, and its fault names its number. -/
theorem decodeAll_error {decoder : Decoder} {raws : List Bytes} {number calls : Nat} {fault : Fault}
    (found : (decoder.decodeAll number raws).1[calls]? = some (.error fault)) :
    (∃ reason, fault = .malformed (number + calls) reason) ∧
      (decoder.decodeAll number raws).1.length = calls + 1 ∧
      ∀ earlier < calls, ∃ commit, (decoder.decodeAll number raws).1[earlier]? = some (.ok commit) := by
  induction raws generalizing decoder number calls with
  | nil => simp [decodeAll] at found
  | cons raw rest ih =>
      rcases decoded : decoder.decode raw number with ⟨other | commit, later⟩
      · rw [decodeAll_of_error decoded] at found ⊢
        cases calls with
        | zero =>
            cases found
            exact ⟨malformed_of_decode decoded, rfl, fun _ before => absurd before (Nat.not_lt_zero _)⟩
        | succ calls => simp at found
      · rw [decodeAll_of_ok decoded] at found ⊢
        cases calls with
        | zero => simp at found
        | succ calls =>
            obtain ⟨named, last, sound⟩ := ih found
            refine ⟨?_, congrArg (· + 1) last, fun earlier before => ?_⟩
            · rwa [Nat.add_right_comm, Nat.add_assoc] at named
            · cases earlier with
              | zero => exact ⟨commit, rfl⟩
              | succ earlier => exact sound earlier (Nat.lt_of_succ_lt_succ before)

end Decoder

/-- Call by call the reader gives what the log cut at once gives, and then nothing for ever. It
has taken as many records as it has given items; the others are still in the source, and the
decoder has not seen them. Only the last item can be a fault, and it names the number of the
sound records before it, the record being counted as taken. -/
theorem calls_give_batch (decoder : Decoder) (bytes : Bytes) (calls : Nat) :
    let start := Reader.start (.ofBytes bytes) decoder
    let items := (decoder.decodeAll 0 (rawRecords bytes)).1
    start.call calls = items[calls]? ∧
      (start.after calls).records = min calls items.length ∧
      (start.after calls).source.raws = (rawRecords bytes).drop (min calls items.length) ∧
      (start.after calls).decoder =
        (decoder.decodeAll 0 ((rawRecords bytes).take (min calls items.length))).2 ∧
      ∀ fault, items[calls]? = some (.error fault) →
        (∃ reason, fault = .malformed calls reason) ∧ (start.after (calls + 1)).records = calls + 1 ∧
        items.length = calls + 1 ∧ ∀ earlier < calls, ∃ commit, items[earlier]? = some (.ok commit) := by
  intro start items
  have reached : start.Reached calls items := Reader.reached_ofBytes bytes decoder calls
  have ahead : start.source.raws = rawRecords bytes := Source.raws_ofBytes bytes
  refine ⟨Reader.call_ofBytes bytes decoder calls, Reader.records_ofBytes bytes decoder calls, ?_, ?_,
    fun fault found => ?_⟩
  · rw [reached.source rfl, ahead]
  · rw [reached.decoder, ahead]
    rfl
  · obtain ⟨named, last, sound⟩ := Decoder.decodeAll_error found
    rw [Nat.zero_add] at named
    have counted := Reader.records_ofBytes bytes decoder (calls + 1)
    rw [last, Nat.min_self] at counted
    exact ⟨named, counted, last, sound⟩

/-- A damaged record behind a blank piece: it is number 0, and what stands behind it stays unread. -/
theorem calls_give_batch_damaged :
    let start := Reader.start (.ofBytes [0x20, 0x00, 0x09, 0x58, 0x00, 0x59]) ⟨.sha1, .utf8, .standard⟩
    start.call 0 = some (.error (.malformed 0 .unterminatedHeader)) ∧ start.call 1 = none ∧
      (start.after 1).records = 1 ∧ (start.after 1).source.raws = [[0x59]] := by
  intro start
  have raws : rawRecords [0x20, 0x00, 0x09, 0x58, 0x00, 0x59] = [[0x58], [0x59]] := by decide
  have items : (start.decoder.decodeAll 0 [[0x58], [0x59]]).1 = [.error (.malformed 0 .unterminatedHeader)] := rfl
  have first := calls_give_batch start.decoder [0x20, 0x00, 0x09, 0x58, 0x00, 0x59] 0
  have second := calls_give_batch start.decoder [0x20, 0x00, 0x09, 0x58, 0x00, 0x59] 1
  rw [raws, items] at first second
  exact ⟨first.1, second.1, second.2.1, second.2.2.1⟩

end CommitLanes.Log
