import CommitLanes.Proofs.Log.Roundtrip

/-! How the bytes of a log are delivered makes no difference.

Reads may cut the bytes anywhere and be interrupted anywhere. A read that fails ends the log
behind the last separator that arrived before it: of a record that was not closed by then,
nothing is decoded.
-/

set_option autoImplicit false

namespace CommitLanes.Log

/-- The arrivals bring these bytes, in reads that are not empty, and nothing fails. -/
inductive Source.Brings : List Arrival → Bytes → Prop where
  | nothing : Brings [] []
  | data {bytes more : Bytes} {later : List Arrival} (nonempty : bytes ≠ []) (rest : Brings later more) :
      Brings (.data bytes :: later) (bytes ++ more)
  | interruption {more : Bytes} {later : List Arrival} (rest : Brings later more) :
      Brings (.interruption :: later) more

namespace Source

variable {before later : List Arrival} {bytes : Bytes}

theorem Brings.arriving_append (brings : Brings before bytes) (later : List Arrival) :
    arriving (before ++ later) = bytes ++ arriving later := by
  induction brings with
  | nothing => rfl
  | data nonempty rest ih => simp [arriving, ih]
  | interruption rest ih => simpa [arriving] using ih

theorem Brings.firstFailure_append (brings : Brings before bytes) (later : List Arrival) :
    firstFailure (before ++ later) = firstFailure later := by
  induction brings with
  | nothing => rfl
  | data nonempty rest ih => simpa [firstFailure] using ih
  | interruption rest ih => simpa [firstFailure] using ih

theorem brings_deliveries (size : Nat) (bytes : Bytes) : Brings (deliveries size bytes) bytes := by
  fun_induction deliveries size bytes with
  | case1 bytes whole empty =>
      rw [List.isEmpty_iff.mp empty]
      exact .nothing
  | case2 bytes whole full =>
      have nonempty : bytes ≠ [] := fun empty => full (List.isEmpty_iff.mpr empty)
      simpa using Brings.data nonempty .nothing
  | case3 positive => exact .nothing
  | case4 positive b rest ih =>
      have nonempty : (b :: rest).take size ≠ [] := by
        simp [List.take_eq_nil_iff, positive]
      have all := Brings.data nonempty ih
      rwa [List.take_append_drop] at all

theorem failure?_of_brings (brings : Brings before bytes) : (⟨[], before⟩ : Source).failure? = none := by
  have none := brings.firstFailure_append []
  rwa [List.append_nil] at none

theorem raws_of_brings (brings : Brings before bytes) :
    (⟨[], before⟩ : Source).raws = rawRecords bytes := by
  have arrived := brings.arriving_append []
  rw [List.append_nil, arriving, List.append_nil] at arrived
  rw [raws_of_calm (failure?_of_brings brings), reachable, arrived]
  rfl

theorem raws_of_failing (brings : Brings before bytes) (cause : String) (later : List Arrival) :
    (⟨[], before ++ .failure cause :: later⟩ : Source).raws =
      rawRecords (Pieces.closed Reader.isSeparator bytes) := by
  -- What comes behind the failure is not looked at.
  have failing : (⟨[], before ++ .failure cause :: later⟩ : Source).failure? = some cause :=
    brings.firstFailure_append _
  have arrived := brings.arriving_append (.failure cause :: later)
  rw [arriving, List.append_nil] at arrived
  rw [raws, whole, failing, reachable, arrived]
  rfl

end Source

/-- Both readers have taken as many records as each other, and their decoders have seen the same. -/
structure Reader.KeepsPace (reader other : Reader) : Prop where
  records : reader.records = other.records
  decoder : reader.decoder = other.decoder

theorem Reader.keepsPace_of_raws {source : Source} {bytes : Bytes} (same : source.raws = rawRecords bytes)
    (decoder : Decoder) (calls : Nat) :
    ((start source decoder).after calls).KeepsPace ((start (.ofBytes bytes) decoder).after calls) := by
  have here : (start source decoder).Reached calls _ := reached rfl calls
  have there := reached_ofBytes bytes decoder calls
  rw [show (start source decoder).source.raws = rawRecords bytes from same] at here
  constructor
  · rw [here.records, there.records]
    rfl
  · rw [here.decoder, there.decoder]
    rw [show (start source decoder).source.raws = rawRecords bytes from same,
      show (start (.ofBytes bytes) decoder).source.raws = rawRecords bytes from Source.raws_ofBytes bytes]
    rfl

theorem Reader.call_of_raws {source : Source} {bytes : Bytes} (same : source.raws = rawRecords bytes)
    (decoder : Decoder) (calls : Nat) :
    (start source decoder).call calls =
      ((start (.ofBytes bytes) decoder).items ++
        lastWord (start (.ofBytes bytes) decoder).items source.failure?)[calls]? := by
  have here : (start source decoder).Reached calls _ := reached rfl calls
  rw [show (start source decoder).source.raws = rawRecords bytes from same] at here
  rw [items_ofBytes]
  exact here.call

/-- However bytes are delivered, the reader gives what it gives for the bytes at once, and keeps
pace with that reading. If a read fails behind the first `count` bytes, it gives what it gives for
the longest closed start of those; unless that ended in a malformed record, one more item reports
the failure; and then there is nothing for ever, whatever would still arrive. -/
theorem delivery_is_immaterial (decoder : Decoder) (bytes : Bytes) (calls : Nat) :
    (∀ arrivals, Source.Brings arrivals bytes →
      let reader := Reader.start ⟨[], arrivals⟩ decoder
      let atOnce := Reader.start (.ofBytes bytes) decoder
      reader.call calls = atOnce.items[calls]? ∧ atOnce.call calls = atOnce.items[calls]? ∧
        (reader.after calls).KeepsPace (atOnce.after calls)) ∧
    ∀ count before cause later closed, Source.Brings before (bytes.take count) →
      Pieces.LongestClosed Reader.isSeparator (bytes.take count) closed →
      let reader := Reader.start ⟨[], before ++ .failure cause :: later⟩ decoder
      let atOnce := Reader.start (.ofBytes closed) decoder
      reader.call calls = (atOnce.items ++
        if atOnce.items.all Except.isOk then [.error (.unreadable cause)] else [])[calls]? ∧
        (reader.after calls).KeepsPace (atOnce.after calls) := by
  constructor
  · intro arrivals brings reader atOnce
    have same := Source.raws_of_brings brings
    refine ⟨?_, ?_, Reader.keepsPace_of_raws same decoder calls⟩
    · have given := Reader.call_of_raws same decoder calls
      rwa [Source.failure?_of_brings brings, Reader.lastWord_of_calm, List.append_nil] at given
    · rw [Reader.items_ofBytes]
      exact Reader.call_ofBytes bytes decoder calls
  · intro count before cause later closed brings longest reader atOnce
    obtain rfl := Pieces.longestClosed_iff.mp longest
    have same := Source.raws_of_failing brings cause later
    refine ⟨?_, Reader.keepsPace_of_raws same decoder calls⟩
    have given := Reader.call_of_raws same decoder calls
    rwa [show (⟨[], before ++ .failure cause :: later⟩ : Source).failure? = some cause from
      brings.firstFailure_append _] at given

/-- Two entries in reads of at most seven bytes: behind an interruption they come as they are; a
failure in the middle of the second leaves the first. -/
theorem delivery_of_sevens :
    let bytes := latinEntry.encode ++ plainEntry.encode
    Source.Brings (.interruption :: Source.deliveries 7 bytes) bytes ∧
      Source.Brings (Source.deliveries 7 (bytes.take 250)) (bytes.take 250) ∧
      Pieces.LongestClosed Reader.isSeparator (bytes.take 250) latinEntry.encode ∧
      (∀ calls, (Reader.start ⟨[], .interruption :: Source.deliveries 7 bytes⟩ plainDecoder).call calls =
        (Reader.start (.ofBytes bytes) plainDecoder).items[calls]?) ∧
      ∀ later calls,
        let failing := Source.deliveries 7 (bytes.take 250) ++ .failure "reset" :: later
        (Reader.start ⟨[], failing⟩ plainDecoder).call calls =
          ((Reader.start (.ofBytes latinEntry.encode) plainDecoder).items ++
            [.error (.unreadable "reset")])[calls]? := by
  intro bytes
  have whole : Source.Brings (.interruption :: Source.deliveries 7 bytes) bytes :=
    .interruption (Source.brings_deliveries 7 bytes)
  have started : Source.Brings (Source.deliveries 7 (bytes.take 250)) (bytes.take 250) :=
    Source.brings_deliveries 7 _
  have first : Pieces.LongestClosed Reader.isSeparator (bytes.take 250) latinEntry.encode :=
    Pieces.longestClosed_iff.mpr (by decide +kernel)
  have sound : (Reader.start (.ofBytes latinEntry.encode) plainDecoder).items.all Except.isOk = true := by
    decide +kernel
  refine ⟨whole, started, first, fun calls => ?_, fun later calls => ?_⟩
  · exact ((delivery_is_immaterial plainDecoder bytes calls).1 _ whole).1
  · have given := ((delivery_is_immaterial plainDecoder bytes calls).2 250 _ "reset" later _ started first).1
    rwa [if_pos sound] at given

end CommitLanes.Log
