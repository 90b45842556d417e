import CommitLanes.Repository.History

/-! A history on its way from the one who walks it to the one who reads it.

The walker encodes one commit after another and sends its record through a channel that holds
only so many of them; behind the last it says how the walk ended. The reader takes bytes of the
record at hand and asks the channel for another one when there are none left. Which of the two
moves next is up to the schedule.
-/

set_option autoImplicit false

namespace CommitLanes.Repository.History

inductive Parcel where
  | record (bytes : Bytes)
  | done
  | failed (fault : Fault)
  deriving DecidableEq, Repr

def Parcel.last : Option Fault → Parcel
  | none => .done
  | some fault => .failed fault

def parcel : History → Parcel × Option History
  | ⟨entry :: rest, fault⟩ => (.record entry.encode, some ⟨rest, fault⟩)
  | ⟨[], fault⟩ => (.last fault, none)

inductive Stream.Failure where
  | walk (fault : Fault)
  /-- The walker is gone and has not said how the walk ended. -/
  | stopped
  deriving DecidableEq, Repr

def Stream.Failure.message : Stream.Failure → String
  | .walk fault => fault.message
  | .stopped => "history export stopped without finishing"

structure Stream where
  /-- What is left of the walk, unless the walker is gone. -/
  walk : Option History
  /-- Parcels on their way, the oldest first. -/
  channel : List Parcel
  current : Bytes
  position : Nat
  /-- Whether it is known how the walk ended. -/
  done : Bool
  dropped : Bool
  readings : List (Except Stream.Failure Bytes)

namespace Stream

inductive Act where
  | walk
  | read
  | drop
  deriving DecidableEq, Repr

def capacity : Nat :=
  64

def start (history : History) : Stream where
  walk := some history
  channel := []
  current := []
  position := 0
  done := false
  dropped := false
  readings := []

/-- The walker waits for room in the channel. What it sends to a reader that is gone ends
the walk. -/
def walkOn (stream : Stream) : Stream :=
  match stream.walk with
  | none => stream
  | some history =>
      if stream.dropped then { stream with walk := none }
      else if capacity ≤ stream.channel.length then stream
      else { stream with
        walk := history.parcel.2
        channel := stream.channel ++ [history.parcel.1] }

def answer (stream : Stream) (reading : Except Failure Bytes) : Stream :=
  { stream with readings := stream.readings ++ [reading] }

/-- Without bytes at hand a reading takes a parcel, or waits for one. -/
def refill (stream : Stream) : Stream :=
  match stream.channel with
  | .record bytes :: rest => { stream with channel := rest, current := bytes, position := 0 }
  | .done :: rest => { stream with channel := rest, done := true }
  | .failed fault :: rest =>
      { stream with channel := rest, done := true }.answer (.error (.walk fault))
  | [] =>
      if stream.walk.isSome then stream
      else { stream with done := true }.answer (.error .stopped)

/-- A step of a reading with room for `size` bytes. It gives bytes when there are some at hand,
none when the walk is known to be over, and else goes on with what `refill` leaves. -/
def read (size : Nat) (stream : Stream) : Stream :=
  if stream.dropped then stream
  else if stream.position < stream.current.length then
    let bytes := (stream.current.drop stream.position).take size
    { stream with position := stream.position + bytes.length }.answer (.ok bytes)
  else if stream.done then stream.answer (.ok [])
  else stream.refill

def act (sizes : Nat → Nat) (stream : Stream) : Act → Stream
  | .walk => stream.walkOn
  -- The reading that is under way has the number of those that are over.
  | .read => stream.read (sizes stream.readings.length)
  | .drop => { stream with dropped := true }

/-- The stream after these turns, where each reading has room for as many bytes as `sizes` says.
A party that cannot move lets its turn pass. -/
def play (sizes : Nat → Nat) (stream : Stream) (schedule : List Act) : Stream :=
  schedule.foldl (act sizes) stream

end Stream

end CommitLanes.Repository.History
