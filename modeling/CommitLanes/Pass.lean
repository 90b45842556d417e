import CommitLanes.Filter
import CommitLanes.Layout
import CommitLanes.Log.Reader
import CommitLanes.Ref.Catalog
import CommitLanes.Settings

/-! One pass over a log: every commit gets its refs and is laid out, and the rows that the
filter accepts are delivered, until the log ends or the pass is called off.

A filter keeps rows back and nothing else. A commit that is not shown takes part in the
layout all the same, so the lines of the others do not depend on what is shown.
-/

set_option autoImplicit false

namespace CommitLanes.Pass

structure Plan where
  settings : Settings
  refs : Ref.Catalog
  filter : Option Filter

/-- How far a pass has come when it looks whether it was called off. -/
structure Moment where
  records : Nat
  rows : Nat
  judged : Nat
  deriving DecidableEq, Repr

abbrev Flag := Moment → Bool

def Flag.never : Flag :=
  fun _ => false

structure Summary where
  records : Nat
  rows : Nat
  /-- The refs of all commits laid out, each once, in the order they were met. -/
  refsSeen : List Ref
  dangling : List Edge
  anomalies : Nat
  deriving DecidableEq

inductive Failure where
  | log (fault : Log.Fault)
  | settings (fault : Settings.Fault)
  | cancelled
  | lost (said : Text)
  deriving DecidableEq, Repr

def Failure.message : Failure → String
  | .log (.unreadable cause) => "failed to read commit stream: " ++ cause
  | .log fault => fault.message
  | .settings fault => fault.message
  | .cancelled => "layout cancelled"
  | .lost said => "layout worker stopped without reporting: " ++ String.ofList said

inductive Outcome where
  | completed (summary : Summary)
  | cancelled (rows : Nat)
  | failed (failure : Failure)
  deriving DecidableEq

namespace Outcome

def isCompleted : Outcome → Bool
  | completed _ => true
  | _ => false

def toExcept : Outcome → Except Failure Summary
  | completed summary => .ok summary
  | cancelled _ => .error .cancelled
  | failed failure => .error failure

end Outcome

structure State where
  layout : Layout
  records : Nat
  rows : Nat
  judged : Nat
  refsSeen : List Ref

namespace State

def start (settings : Settings) : State :=
  ⟨.start settings.seenWindow, 0, 0, 0, []⟩

def moment (state : State) : Moment :=
  ⟨state.records, state.rows, state.judged⟩

def meetRefs (seen refs : List Ref) : List Ref :=
  refs.foldl (fun seen ref => if ref ∈ seen then seen else seen ++ [ref]) seen

def place (state : State) (catalog : Ref.Catalog) (commit : Commit) : Layout.Row × State :=
  let refs := catalog.refsFor commit.id
  let (row, layout) := state.layout.push (commit.withRefs refs)
  (row, { state with layout, refsSeen := meetRefs state.refsSeen refs })

def summary (state : State) : Summary where
  records := state.records
  rows := state.rows
  refsSeen := state.refsSeen
  dangling := state.layout.finish.1
  anomalies := state.layout.anomalies.length

end State

/-- What one commit comes to: the row to deliver, if any, and the outcome, if the pass
ends here. -/
structure Step where
  row : Option Layout.Row
  outcome : Option Outcome
  state : State

def wordless : Text :=
  "worker panicked".toList

/-- A row is on its way before the flag is looked at, so being called off never takes a
row back. -/
def deliver (flag : Flag) (state : State) (row : Layout.Row) : Step :=
  let state := { state with rows := state.rows + 1 }
  ⟨some row, if flag state.moment then some (.cancelled state.rows) else none, state⟩

/-- A placeholder is shown whatever the filter says. -/
def stepPlaceholder (plan : Plan) (flag : Flag) (state : State) (commit : Commit) : Step :=
  let (row, state) := state.place plan.refs commit
  deliver flag state row

def stepCommit (plan : Plan) (flag : Flag) (state : State) (commit : Commit) : Step :=
  let (row, state) := { state with records := state.records + 1 }.place plan.refs commit
  match plan.filter with
  | none => deliver flag state row
  | some filter =>
      let state := { state with judged := state.judged + 1 }
      match filter.judge row.node with
      | .accept => deliver flag state row
      | .reject => ⟨none, none, state⟩
      | .crash said => ⟨none, some (.failed (.lost (said.getD wordless))), state⟩

structure Run where
  rows : List Layout.Row
  outcome : Outcome
  reached : Moment

def Run.after (step : Step) (rest : State → Run) : Run :=
  match step.outcome with
  | some outcome => ⟨step.row.toList, outcome, step.state.moment⟩
  | none =>
      let run := rest step.state
      { run with rows := step.row.toList ++ run.rows }

/-- The flag is looked at before each commit is taken, also when there is none left. -/
def runCommits (plan : Plan) (flag : Flag) : List (Except Log.Fault Commit) → State → Run
  | items, state =>
      if flag state.moment then ⟨[], .cancelled state.rows, state.moment⟩
      else match items with
        | [] => ⟨[], .completed state.summary, state.moment⟩
        | .error fault :: _ => ⟨[], .failed (.log fault), state.moment⟩
        | .ok commit :: rest =>
            Run.after (stepCommit plan flag state commit) (runCommits plan flag rest)

def runPlaceholders (plan : Plan) (flag : Flag) (rest : State → Run) : List Commit → State → Run
  | [], state => rest state
  | commit :: later, state =>
      Run.after (stepPlaceholder plan flag state commit) (runPlaceholders plan flag rest later)

/-- The working tree leads to the index and the index to the head. -/
def placeholders (plan : Plan) : List Commit :=
  if plan.settings.artificialCommits then
    match plan.refs.head with
    | some head => [.workingTree, .index head]
    | none => []
  else []

def run (plan : Plan) (flag : Flag) (source : Log.Source) : Run :=
  match plan.settings.decoder with
  | .error fault => ⟨[], .failed (.settings fault), ⟨0, 0, 0⟩⟩
  | .ok decoder =>
      let items := (Log.Reader.start source decoder).items
      runPlaceholders plan flag (runCommits plan flag items) (placeholders plan)
        (.start plan.settings)

end CommitLanes.Pass
