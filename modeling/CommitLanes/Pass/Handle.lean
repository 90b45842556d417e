import CommitLanes.Pass

/-! The receiving end of a pass. Rows come first, then exactly one event that tells how
the pass ended, then nothing. -/

set_option autoImplicit false

namespace CommitLanes.Pass

inductive Event where
  | row (row : Layout.Row)
  | finished (outcome : Outcome)
  deriving DecidableEq

def Run.events (run : Run) : List Event :=
  run.rows.map .row ++ [.finished run.outcome]

structure Handle where
  pending : List Event

namespace Handle

def ofRun (run : Run) : Handle :=
  ⟨run.events⟩

def next (handle : Handle) : Option Event × Handle :=
  match handle.pending with
  | [] => (none, handle)
  | event :: rest => (some event, ⟨rest⟩)

def exhausted (rows : Nat) : Outcome :=
  .failed (.lost ("channel closed after ".toList ++ Decimal.ofNat rows ++ " rows".toList))

/-- All rows up to the outcome. A handle that gives no outcome is reported as one. -/
def collect (handle : Handle) : List Layout.Row × Outcome :=
  go 0 handle.pending
where
  go (rows : Nat) : List Event → List Layout.Row × Outcome
    | [] => ([], exhausted rows)
    | .finished outcome :: _ => ([], outcome)
    | .row row :: rest =>
        let (others, outcome) := go (rows + 1) rest
        (row :: others, outcome)

/-- The events of a handle that is let go once it has given `rows` rows. The outcome is
among them only if it comes before that. -/
def takeRows (rows : Nat) (handle : Handle) : List Event :=
  go rows handle.pending
where
  go : Nat → List Event → List Event
    | 0, _ => []
    | _, [] => []
    | _ + 1, .finished outcome :: _ => [.finished outcome]
    | rows + 1, .row row :: rest => .row row :: go rows rest

end Handle

end CommitLanes.Pass
