import CommitLanes.Pass.Handle

/-! The worker of a pass, step by step.

A pass is told as a whole elsewhere. Here it is taken apart where the one who receives can
step in: where the flag is looked at, where the filter is asked, where an event is sent.
What lies between two such points touches nothing that is shared and is one step.
-/

set_option autoImplicit false

namespace CommitLanes.Pass

inductive Task where
  /-- Lay out the next placeholder or, if none is left, look at the flag. -/
  | proceed (placeholders : List Commit)
  | take
  | ask (filter : Filter) (row : Layout.Row)
  | deliver (row : Layout.Row) (placeholders : List Commit)
  | look (placeholders : List Commit)

inductive Worker where
  | working (task : Task) (reader : Log.Reader) (state : State)
  | reporting (outcome : Outcome)
  | gone

inductive Deed where
  | look
  | layOut
  | take
  | ask
  | deliver
  | report
  deriving DecidableEq, Repr

namespace Task

def deed : Task → Deed
  | proceed [] => .look
  | proceed (_ :: _) => .layOut
  | take => .take
  | ask _ _ => .ask
  | deliver _ _ => .deliver
  | look _ => .look

def afterPlacing (plan : Plan) (row : Layout.Row) : Task :=
  match plan.filter with
  | none => .deliver row []
  | some filter => .ask filter row

end Task

namespace Worker

/-- Settings that name no known encoding end the pass before the log is opened. -/
def start (plan : Plan) (source : Log.Source) : Worker :=
  match plan.settings.decoder with
  | .error fault => .reporting (.failed (.settings fault))
  | .ok decoder =>
      .working (.proceed (placeholders plan)) (Log.Reader.start source decoder) (.start plan.settings)

def heed (cancelled : Bool) (onward : Task) (reader : Log.Reader) (state : State) : Worker :=
  if cancelled then .reporting (.cancelled state.rows) else .working onward reader state

def step (plan : Plan) (cancelled : Bool) : Worker → Worker
  | working (.proceed []) reader state => heed cancelled .take reader state
  | working (.proceed (commit :: later)) reader state =>
      let (row, state) := state.place plan.refs commit
      working (.deliver row later) reader state
  | working .take reader state =>
      match reader.next with
      | (none, _) => reporting (.completed state.summary)
      | (some (.error fault), _) => reporting (.failed (.log fault))
      | (some (.ok commit), reader) =>
          let (row, state) := { state with records := state.records + 1 }.place plan.refs commit
          working (.afterPlacing plan row) reader state
  | working (.ask filter row) reader state =>
      let state := { state with judged := state.judged + 1 }
      match filter.judge row.node with
      | .accept => working (.deliver row []) reader state
      | .reject => working (.proceed []) reader state
      -- The breakdown is caught around the worker, and what it said is reported.
      | .crash said => reporting (.failed (.lost (said.getD wordless)))
  | working (.deliver _ later) reader state =>
      working (.look later) reader { state with rows := state.rows + 1 }
  | working (.look later) reader state => heed cancelled (.proceed later) reader state
  | reporting _ => gone
  | gone => gone

def event? : Worker → Option Event
  | working (.deliver row _) _ _ => some (.row row)
  | reporting outcome => some (.finished outcome)
  | _ => none

def deed? : Worker → Option Deed
  | working task _ _ => some task.deed
  | reporting _ => some .report
  | gone => none

end Worker

end CommitLanes.Pass
