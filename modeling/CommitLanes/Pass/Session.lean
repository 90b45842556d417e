import CommitLanes.Pass.Worker

/-! A pass between two parties.

The worker sends its events through a channel that holds only so many of them, and waits
while it is full. The one who receives takes them out in order and may call the pass off at
any time. Which of the two moves next is up to the schedule.
-/

set_option autoImplicit false

namespace CommitLanes.Pass

structure Session where
  worker : Worker
  /-- Events on their way, the oldest first. -/
  channel : List Event
  cancelled : Bool
  received : List Event
  deeds : List Deed

inductive Act where
  | work
  | receive
  | cancel
  deriving DecidableEq, Repr

inductive Reply where
  | event (event : Event)
  | pending
  /-- Nothing any more: the channel is empty and its worker gone. -/
  | ended
  deriving DecidableEq

/-- A channel without room would never let anything through. -/
def Plan.capacity (plan : Plan) : Nat :=
  max plan.settings.channelCapacity 1

namespace Session

def start (plan : Plan) (source : Log.Source) : Session :=
  ⟨.start plan source, [], false, [], []⟩

def isBlocked (plan : Plan) (session : Session) : Bool :=
  session.worker.event?.isSome && plan.capacity ≤ session.channel.length

def work (plan : Plan) (session : Session) : Session :=
  if session.isBlocked plan then session
  else { session with
    worker := session.worker.step plan session.cancelled
    channel := session.channel ++ session.worker.event?.toList
    deeds := session.deeds ++ session.worker.deed?.toList }

def reply (session : Session) : Reply :=
  match session.channel, session.worker with
  | event :: _, _ => .event event
  | [], .gone => .ended
  | [], _ => .pending

def receive (session : Session) : Session :=
  match session.channel with
  | [] => session
  | event :: rest => { session with channel := rest, received := session.received ++ [event] }

def cancel (session : Session) : Session :=
  { session with cancelled := true }

def act (plan : Plan) (session : Session) : Act → Session
  | .work => session.work plan
  | .receive => session.receive
  | .cancel => session.cancel

/-- The session after these turns. A party that cannot move lets its turn pass. -/
def play (plan : Plan) (session : Session) (schedule : List Act) : Session :=
  schedule.foldl (act plan) session

end Session

end CommitLanes.Pass
