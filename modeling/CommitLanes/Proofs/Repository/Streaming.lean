import CommitLanes.Proofs.Repository.Reading
import CommitLanes.Repository.Stream

/-! The readings of a stream are those of a reader who has the history at hand.

Whoever moves when, a stream that has made so many readings stands where the reader stands who
has made as many. And readings do return: each turn that changes anything is the last step of
one or uses up some of a finite effort, and one of the two parties can always move.
-/

set_option autoImplicit false

namespace CommitLanes.Repository.History

def Reading.given : Reading → Except Stream.Failure Bytes
  | .bytes piece => .ok piece
  | .failed fault => .error (.walk fault)

def parcels (records : List Bytes) (fault : Option Fault) : List Parcel :=
  records.map .record ++ [.last fault]

namespace Stream

variable {stream : Stream} {sizes : Nat → Nat} {history : History} {records : List Bytes}
  {fault : Option Fault}

def toCome (stream : Stream) : List Parcel :=
  stream.channel ++ (stream.walk.map fun left => parcels left.records left.fault).getD []

def atHand (stream : Stream) : Bytes :=
  stream.current.drop stream.position

section Turns

theorem parcels_eq (history : History) : parcels history.records history.fault =
    history.parcel.1 :: (history.parcel.2.map fun left => parcels left.records left.fault).getD [] := by
  rcases history with ⟨_ | ⟨entry, rest⟩, fault⟩ <;> rfl

theorem toCome_walkOn (present : stream.dropped = false) : stream.walkOn.toCome = stream.toCome := by
  unfold walkOn
  split
  next => rfl
  next left walking =>
    simp only [present, Bool.false_eq_true, if_false]
    split
    next => rfl
    next =>
      simp only [toCome, walking, Option.map_some, Option.getD_some, parcels_eq left, List.append_assoc,
        List.singleton_append]

theorem exists_walkOn (stream : Stream) : ∃ walk channel, stream.walkOn = { stream with walk, channel } := by
  unfold walkOn
  split
  next => exact ⟨_, _, rfl⟩
  next =>
    split
    · exact ⟨_, _, rfl⟩
    · split <;> exact ⟨_, _, rfl⟩

theorem read_of_atHand (present : stream.dropped = false) (some : stream.atHand ≠ []) (size : Nat) :
    stream.read size = { stream with
      position := stream.position + (stream.atHand.take size).length
      readings := stream.readings ++ [.ok (stream.atHand.take size)] } := by
  have inside : stream.position < stream.current.length := by
    simpa [atHand, List.drop_eq_nil_iff] using some
  simp [read, present, inside, answer, atHand]

theorem read_of_done (present : stream.dropped = false) (none : stream.atHand = []) (done : stream.done = true)
    (size : Nat) : stream.read size = stream.answer (.ok []) := by
  have behind : ¬ stream.position < stream.current.length := by
    simpa [atHand, List.drop_eq_nil_iff] using none
  simp [read, present, behind, done]

theorem read_of_refill (present : stream.dropped = false) (none : stream.atHand = []) (going : stream.done = false)
    (size : Nat) : stream.read size = stream.refill := by
  have behind : ¬ stream.position < stream.current.length := by
    simpa [atHand, List.drop_eq_nil_iff] using none
  simp [read, present, behind, going]

end Turns

section Following

structure StandsAt (reader : Reader) (stream : Stream) : Prop where
  begun : reader.begun = stream.atHand
  ahead : stream.toCome = if stream.done then [] else parcels reader.records reader.fault
  ended : stream.done = true → reader.records = [] ∧ reader.fault = none

/-- What a step of a reading does: it leaves the reading as it is, or it gives what the reading gives. -/
inductive Steps (reader : Reader) (stream : Stream) (size : Nat) (next : Stream) : Prop where
  | on (later : Reader) (stands : StandsAt later next) (same : ∀ room, later.read room = reader.read room)
      (readings : next.readings = stream.readings)
  | returns (stands : StandsAt (reader.read size).2 next)
      (readings : next.readings = stream.readings ++ [(reader.read size).1.given])

theorem steps_refill {reader : Reader} (stands : StandsAt reader stream) (empty : stream.atHand = [])
    (going : stream.done = false) (size : Nat) : Steps reader stream size stream.refill := by
  obtain ⟨begun, records, fault⟩ := reader
  obtain ⟨rfl, ahead, ended⟩ := stands
  simp only [going, Bool.false_eq_true, if_false] at ahead
  unfold refill
  cases waiting : stream.channel with
  | nil =>
      -- It is still to be said how the walk ended, so the walker is there.
      have walking : stream.walk.isSome = true := by
        cases gone : stream.walk with
        | some left => rfl
        | none => simp [toCome, waiting, gone, parcels] at ahead
      simp only [walking, if_true]
      exact .on ⟨stream.atHand, records, fault⟩ ⟨rfl, by simpa [going] using ahead, ended⟩ (fun _ => rfl) rfl
  | cons parcel rest =>
      simp only [toCome, waiting, List.cons_append] at ahead
      rw [empty]
      cases records with
      | cons record records =>
          obtain ⟨rfl, others⟩ := List.cons.inj ahead
          refine .on ⟨record, records, fault⟩ ⟨rfl, ?_, ?_⟩ (fun room => (Reader.read_of_record ..).symm) rfl
          · rw [going]
            exact others
          · simp [going]
      | nil =>
          obtain ⟨rfl, others⟩ := List.cons.inj ahead
          cases fault with
          | none => exact .on .spent ⟨empty.symm, others, fun _ => ⟨rfl, rfl⟩⟩ (fun _ => rfl) rfl
          | some fault => exact .returns ⟨empty.symm, others, fun _ => ⟨rfl, rfl⟩⟩ rfl

theorem steps_read {reader : Reader} (stands : StandsAt reader stream) (present : stream.dropped = false)
    (size : Nat) : Steps reader stream size (stream.read size) := by
  by_cases empty : stream.atHand = []
  · cases done : stream.done with
    | false =>
        rw [read_of_refill present empty done]
        exact steps_refill stands empty done size
    | true =>
        obtain ⟨begun, records, fault⟩ := reader
        obtain ⟨rfl, ahead, ended⟩ := stands
        obtain ⟨rfl, rfl⟩ : records = [] ∧ fault = none := ended done
        rw [read_of_done present empty done, empty]
        exact .returns ⟨empty.symm, ahead, ended⟩ rfl
  · obtain ⟨begun, records, fault⟩ := reader
    obtain ⟨rfl, ahead, ended⟩ := stands
    rw [read_of_atHand present empty]
    have given := Reader.read_of_begun empty size records fault
    refine .returns ?_ (by rw [given]; rfl)
    rw [given]
    -- Whether the room or the record ends first, the same bytes are left.
    have left : stream.atHand.drop size = stream.current.drop (stream.position + (stream.atHand.take size).length) := by
      rw [← List.drop_drop, List.length_take]
      exact List.drop_eq_drop_min
    exact ⟨left, ahead, ended⟩

theorem standsAt_walkOn {reader : Reader} (stands : StandsAt reader stream) (present : stream.dropped = false) :
    StandsAt reader stream.walkOn := by
  have ahead := toCome_walkOn present
  obtain ⟨walk, channel, same⟩ := exists_walkOn stream
  rw [same] at ahead ⊢
  exact ⟨stands.begun, ahead.trans stands.ahead, stands.ended⟩

theorem dropped_refill (stream : Stream) : stream.refill.dropped = stream.dropped := by
  unfold refill
  split
  · rfl
  · rfl
  · rfl
  · split <;> rfl

theorem dropped_read (size : Nat) (stream : Stream) : (stream.read size).dropped = stream.dropped := by
  unfold read
  split
  · rfl
  split
  · rfl
  split
  · rfl
  exact dropped_refill stream

/-- The stream has given what the reader gives, and unless its reader is gone it stands where the reader
stands. -/
structure Follows (sizes : Nat → Nat) (start : Reader) (stream : Stream) : Prop where
  readings : stream.readings =
    (List.range stream.readings.length).map fun call => (start.reading sizes call).given
  stands : stream.dropped = false → ∃ reader, StandsAt reader stream ∧
    ∀ room, reader.read room = (start.after sizes stream.readings.length).read room

variable {start : Reader}

theorem follows_start (sizes : Nat → Nat) (history : History) :
    Follows sizes (.start history) (.start history) where
  readings := rfl
  stands _ := ⟨.start history, ⟨rfl, rfl, fun done => nomatch done⟩, fun _ => rfl⟩

theorem follows_read (follows : Follows sizes start stream) :
    Follows sizes start (stream.read (sizes stream.readings.length)) := by
  by_cases gone : stream.dropped = true
  · rwa [read, if_pos gone]
  · rw [Bool.not_eq_true] at gone
    obtain ⟨reader, stands, same⟩ := follows.stands gone
    rcases steps_read stands gone (sizes stream.readings.length) with
      ⟨later, stands, still, readings⟩ | ⟨stands, readings⟩
    · refine ⟨by rw [readings]; exact follows.readings, fun _ => ⟨later, stands, fun room => ?_⟩⟩
      rw [still, same, readings]
    · -- The reading returns, and both have made one more.
      have given : reader.read (sizes stream.readings.length) =
          (start.after sizes stream.readings.length).read (sizes stream.readings.length) := same _
      rw [given] at stands readings
      refine ⟨?_, fun _ => ⟨_, stands, fun room => ?_⟩⟩
      · rw [readings, List.length_append, List.length_singleton, List.range_succ, List.map_append, ← follows.readings]
        rfl
      · rw [readings, List.length_append, List.length_singleton, Reader.after]

theorem follows_act (follows : Follows sizes start stream) (act : Act) : Follows sizes start (stream.act sizes act) := by
  cases act with
  | read => exact follows_read follows
  | drop => exact ⟨follows.readings, fun present => nomatch present⟩
  | walk =>
      obtain ⟨walk, channel, same⟩ := exists_walkOn stream
      rw [act.eq_def, same]
      refine ⟨follows.readings, fun present => ?_⟩
      obtain ⟨reader, stands, still⟩ := follows.stands present
      exact ⟨reader, same ▸ standsAt_walkOn stands present, still⟩

theorem follows_play (follows : Follows sizes start stream) (schedule : List Act) :
    Follows sizes start (stream.play sizes schedule) := by
  induction schedule generalizing stream with
  | nil => exact follows
  | cons act rest ih => exact ih (follows_act follows act)

end Following

section Returning

/-- The parcels that are still to be sent and to be taken, where those on their way are only to be taken. -/
def effort (stream : Stream) : Nat :=
  2 * (stream.walk.map fun left => left.entries.length + 1).getD 0 + stream.channel.length

/-- A turn that uses up effort, or with which a reading returns. -/
def Advances (stream next : Stream) : Prop :=
  stream.readings.length + next.effort < next.readings.length + stream.effort

theorem Advances.trans {next last : Stream} (first : Advances stream next) (second : Advances next last) :
    Advances stream last := by
  unfold Advances at *
  omega

def Waits (stream : Stream) : Act → Prop
  | .walk => stream.walk = none ∨ capacity ≤ stream.channel.length
  | .read => stream.walk.isSome = true ∧ stream.channel = []
  | .drop => False

theorem not_both_wait (stream : Stream) : ¬ (stream.Waits .walk ∧ stream.Waits .read) := by
  rintro ⟨gone | full, walking, empty⟩
  · simp [gone] at walking
  · rw [empty] at full
    exact absurd full (by decide)

theorem walkOn_cases (present : stream.dropped = false) :
    stream.walkOn = stream ∧ stream.Waits .walk ∨ Advances stream stream.walkOn := by
  unfold walkOn
  split
  next gone => exact .inl ⟨rfl, .inl gone⟩
  next left walking =>
    simp only [present, Bool.false_eq_true, if_false]
    split
    next full => exact .inl ⟨rfl, .inr full⟩
    next =>
      refine .inr ?_
      rcases left with ⟨_ | ⟨entry, rest⟩, fault⟩ <;> simp [Advances, effort, walking, parcel] <;> omega

theorem refill_cases (stream : Stream) :
    stream.refill = stream ∧ stream.Waits .read ∨ Advances stream stream.refill := by
  unfold refill
  split
  next waiting => exact .inr (by simp [Advances, effort, waiting])
  next waiting => exact .inr (by simp [Advances, effort, waiting])
  next waiting => exact .inr (by simp [Advances, effort, answer, waiting]; omega)
  next empty =>
    split
    next walking => exact .inl ⟨rfl, walking, empty⟩
    next => exact .inr (by simp [Advances, answer, effort])

theorem read_cases (present : stream.dropped = false) (size : Nat) :
    stream.read size = stream ∧ stream.Waits .read ∨ Advances stream (stream.read size) := by
  unfold read
  simp only [present, Bool.false_eq_true, if_false]
  split
  · exact .inr (by simp [Advances, answer, effort])
  · split
    · exact .inr (by simp [Advances, answer, effort])
    · exact refill_cases stream

theorem act_cases {act : Act} (present : stream.dropped = false) (stays : act ≠ .drop) :
    stream.act sizes act = stream ∧ stream.Waits act ∨ Advances stream (stream.act sizes act) := by
  cases act with
  | walk => exact walkOn_cases present
  | read => exact read_cases present _
  | drop => exact absurd rfl stays

theorem dropped_act {act : Act} (present : stream.dropped = false) (stays : act ≠ .drop) :
    (stream.act sizes act).dropped = false := by
  cases act with
  | walk =>
      obtain ⟨walk, channel, same⟩ := exists_walkOn stream
      rw [Stream.act, same]
      exact present
  | read => exact (dropped_read _ stream).trans present
  | drop => exact absurd rfl stays

theorem play_cons (stream : Stream) (act : Act) (rest : List Act) :
    stream.play sizes (act :: rest) = (stream.act sizes act).play sizes rest :=
  rfl

theorem play_append (stream : Stream) (front rest : List Act) :
    stream.play sizes (front ++ rest) = (stream.play sizes front).play sizes rest :=
  List.foldl_append ..

theorem dropped_play {schedule : List Act} (present : stream.dropped = false) (stays : .drop ∉ schedule) :
    (stream.play sizes schedule).dropped = false := by
  induction schedule generalizing stream with
  | nil => exact present
  | cons act rest ih =>
      rw [List.mem_cons, not_or] at stays
      exact ih (dropped_act present (Ne.symm stays.1)) stays.2

theorem play_cases {schedule : List Act} (present : stream.dropped = false) (stays : .drop ∉ schedule) :
    (stream.play sizes schedule = stream ∧ ∀ act ∈ schedule, stream.Waits act) ∨
      Advances stream (stream.play sizes schedule) := by
  -- As long as nothing changes, the stream is the one that all of them found.
  induction schedule generalizing stream with
  | nil => exact .inl ⟨rfl, fun _ member => nomatch member⟩
  | cons act rest ih =>
      rw [List.mem_cons, not_or] at stays
      have later := @ih (stream.act sizes act) (dropped_act present (Ne.symm stays.1)) stays.2
      rw [play_cons]
      rcases act_cases present (Ne.symm stays.1) with ⟨same, waits⟩ | advances
      · rw [same] at later ⊢
        exact later.imp_left fun ⟨still, others⟩ => ⟨still, List.forall_mem_cons.mpr ⟨waits, others⟩⟩
      · rcases later with ⟨same, -⟩ | further
        · exact .inr (same.symm ▸ advances)
        · exact .inr (advances.trans further)

/-- A schedule in which both parties get a turn at least so many times after one another, and the
reader stays. -/
def Fair (rounds : Nat) (schedule : List Act) : Prop :=
  ∃ turns : List (List Act), turns.flatten = schedule ∧ rounds ≤ turns.length ∧
    ∀ round ∈ turns, .walk ∈ round ∧ .read ∈ round ∧ .drop ∉ round

theorem advances_round {round : List Act} (present : stream.dropped = false)
    (turns : .walk ∈ round ∧ .read ∈ round ∧ .drop ∉ round) : Advances stream (stream.play sizes round) := by
  rcases play_cases present turns.2.2 with ⟨-, waits⟩ | advances
  · exact absurd ⟨waits _ turns.1, waits _ turns.2.1⟩ (not_both_wait stream)
  · exact advances

/-- In so many rounds as many readings return as there are rounds, but for those that use up effort. -/
theorem rounds_le {rounds : Nat} {schedule : List Act} (present : stream.dropped = false)
    (fair : Fair rounds schedule) :
    stream.readings.length + rounds ≤ (stream.play sizes schedule).readings.length + stream.effort := by
  obtain ⟨turns, rfl, enough, each⟩ := fair
  induction turns generalizing stream rounds with
  | nil =>
      obtain rfl : rounds = 0 := Nat.le_zero.mp enough
      exact Nat.le_add_right ..
  | cons round later ih =>
      obtain ⟨here, others⟩ := List.forall_mem_cons.mp each
      have advances : Advances stream (stream.play sizes round) := advances_round present here
      have behind := @ih (stream.play sizes round) (rounds - 1) (dropped_play present here.2.2)
        (Nat.sub_le_of_le_add enough) others
      rw [List.flatten_cons, play_append]
      unfold Advances at advances
      omega

end Returning

end Stream
end CommitLanes.Repository.History
