import CommitLanes.Pass.Session

/-! What a session will have come to in the end.

The events that were sent, together with those of the pass from where the worker stands,
are the same before and after every turn, as long as the worker finds the flag that the pass
is told with. So the interleaved session and the pass as a whole are the same thing, and a
turn needs to be looked at once only.
-/

set_option autoImplicit false

namespace CommitLanes.Pass

def Flag.always : Flag :=
  fun _ => true

theorem Flag.always_set (moment : Moment) : Flag.always moment = true :=
  rfl

def judgeRow (flag : Flag) (state : State) (filter : Filter) (row : Layout.Row) : Step :=
  let state := { state with judged := state.judged + 1 }
  match filter.judge row.node with
  | .accept => deliver flag state row
  | .reject => ⟨none, none, state⟩
  | .crash said => ⟨none, some (.failed (.lost (said.getD wordless))), state⟩

theorem stepCommit_eq (plan : Plan) (flag : Flag) (state : State) (commit : Commit) :
    stepCommit plan flag state commit =
      match plan.filter with
      | none => deliver flag ({ state with records := state.records + 1 }.place plan.refs commit).2
          ({ state with records := state.records + 1 }.place plan.refs commit).1
      | some filter => judgeRow flag ({ state with records := state.records + 1 }.place plan.refs commit).2 filter
          ({ state with records := state.records + 1 }.place plan.refs commit).1 := by
  unfold stepCommit
  cases plan.filter <;> rfl

def runTaken (plan : Plan) (flag : Flag) (state : State) : List (Except Log.Fault Commit) → Run
  | [] => ⟨[], .completed state.summary, state.moment⟩
  | .error fault :: _ => ⟨[], .failed (.log fault), state.moment⟩
  | .ok commit :: rest => Run.after (stepCommit plan flag state commit) (runCommits plan flag rest)

theorem runCommits_eq (plan : Plan) (flag : Flag) (items : List (Except Log.Fault Commit)) (state : State) :
    runCommits plan flag items state =
      if flag state.moment then ⟨[], .cancelled state.rows, state.moment⟩ else runTaken plan flag state items := by
  cases items with
  | nil => rfl
  | cons item rest => cases item <;> rfl

/-- The pass from a task on. -/
def Task.run (plan : Plan) (flag : Flag) (reader : Log.Reader) (state : State) : Task → Run
  | proceed later => runPlaceholders plan flag (runCommits plan flag reader.items) later state
  | take => runTaken plan flag state reader.items
  | ask filter row => Run.after (judgeRow flag state filter row) (runCommits plan flag reader.items)
  | deliver row later =>
      Run.after (Pass.deliver flag state row) (runPlaceholders plan flag (runCommits plan flag reader.items) later)
  | look later =>
      if flag state.moment then ⟨[], .cancelled state.rows, state.moment⟩
      else runPlaceholders plan flag (runCommits plan flag reader.items) later state

/-- Commits taken since the flag was last looked at, as far as the task shows. -/
def Task.ahead : Task → Nat
  | ask _ _ => 1
  | _ => 0

theorem Task.ahead_le_one (task : Task) : task.ahead ≤ 1 := by
  cases task <;> simp [ahead]

namespace Worker

def toCome (plan : Plan) (flag : Flag) : Worker → List Event
  | working task reader state => (task.run plan flag reader state).events
  | reporting outcome => [.finished outcome]
  | gone => []

/-- Where the worker is about to look, it finds the flag like this. -/
def Finds (flag : Flag) (cancelled : Bool) (worker : Worker) : Prop :=
  ∀ task reader state, worker = working task reader state → task.deed = .look → flag state.moment = cancelled

variable {plan : Plan} {flag : Flag} {cancelled : Bool} {worker : Worker}

theorem finds_never (worker : Worker) : worker.Finds .never false :=
  fun _ _ _ _ _ => rfl

theorem finds_always (worker : Worker) : worker.Finds .always true :=
  fun _ _ _ _ _ => rfl

theorem toCome_start (plan : Plan) (flag : Flag) (source : Log.Source) :
    (start plan source).toCome plan flag = (run plan flag source).events := by
  unfold start run
  cases plan.settings.decoder <;> rfl

theorem events_deliver (flag : Flag) (state : State) (row : Layout.Row) (rest : State → Run) :
    (Run.after (deliver flag state row) rest).events =
      .row row ::
        (if flag { state with rows := state.rows + 1 }.moment then
          ⟨[], .cancelled (state.rows + 1), { state with rows := state.rows + 1 }.moment⟩
        else rest { state with rows := state.rows + 1 }).events := by
  by_cases set : flag { state with rows := state.rows + 1 }.moment = true
  · simp [deliver, Run.after, Run.events, set]
  · simp [deliver, Run.after, Run.events, set]

theorem toCome_take (plan : Plan) (flag : Flag) (cancelled : Bool) (reader : Log.Reader) (state : State) :
    (working .take reader state).toCome plan flag =
      ((working .take reader state).step plan cancelled).toCome plan flag := by
  rw [toCome, Task.run, Log.Reader.items_eq, step]
  rcases reader.next with ⟨(_ | fault | commit), later⟩
  · rfl
  · rfl
  · simp only [runTaken, stepCommit_eq, Task.afterPlacing]
    cases plan.filter <;> rfl

theorem toCome_ask (plan : Plan) (flag : Flag) (cancelled : Bool) (filter : Filter) (row : Layout.Row)
    (reader : Log.Reader) (state : State) :
    (working (.ask filter row) reader state).toCome plan flag =
      ((working (.ask filter row) reader state).step plan cancelled).toCome plan flag := by
  simp only [toCome, Task.run, judgeRow, step]
  cases filter.judge row.node <;> rfl

/-- One step of a worker: what it sends, and what it has to send from then on. -/
theorem toCome_step (finds : worker.Finds flag cancelled) :
    worker.toCome plan flag = worker.event?.toList ++ (worker.step plan cancelled).toCome plan flag := by
  cases worker with
  | gone => rfl
  | reporting outcome => rfl
  | working task reader state =>
      cases task with
      | proceed later =>
          cases later with
          | nil =>
              have found : flag state.moment = cancelled := finds _ _ _ rfl rfl
              simp only [toCome, Task.run, runPlaceholders, runCommits_eq, found, step, heed]
              cases cancelled <;> rfl
          | cons commit later => rfl
      | take => exact toCome_take plan flag cancelled reader state
      | ask filter row => exact toCome_ask plan flag cancelled filter row reader state
      | deliver row later => exact events_deliver flag state row _
      | look later =>
          have found : flag state.moment = cancelled := finds _ _ _ rfl rfl
          simp only [toCome, Task.run, found, step, heed]
          cases cancelled <;> rfl

/-- Behind a step only a worker still works that worked before it and did not find the flag set. No
look at the flag ever comes between taking a commit and asking the filter about it. -/
theorem working_of_step {task : Task} {reader : Log.Reader} {state : State}
    (works : worker.step plan cancelled = working task reader state) :
    ∃ before log past, worker = working before log past ∧
      past.records + task.ahead ≤ state.records + before.ahead ∧
      (before.deed = .look → cancelled = false) := by
  cases worker with
  | gone => cases works
  | reporting outcome => cases works
  | working before log past =>
      refine ⟨before, log, past, rfl, ?_⟩
      cases before with
      | proceed later =>
          cases later with
          | nil =>
              simp only [step, heed] at works
              split at works
              · cases works
              next unset =>
                cases works
                exact ⟨Nat.le_refl _, fun _ => Bool.eq_false_iff.mpr unset⟩
          | cons commit later =>
              cases works
              exact ⟨Nat.le_refl _, nofun⟩
      | take =>
          rcases reply : log.next with ⟨(_ | fault | commit), later⟩ <;> simp only [step, reply] at works <;>
            cases works
          -- The commit is ahead of the last look only if the filter is to be asked about it.
          exact ⟨Nat.add_le_add_left (Task.ahead_le_one _) _, nofun⟩
      | ask filter row =>
          simp only [step] at works
          cases verdict : filter.judge row.node <;> simp only [verdict] at works <;> cases works <;>
            exact ⟨Nat.le_succ _, nofun⟩
      | deliver row later =>
          cases works
          exact ⟨Nat.le_refl _, nofun⟩
      | look later =>
          simp only [step, heed] at works
          split at works
          · cases works
          next unset =>
            cases works
            exact ⟨Nat.le_refl _, fun _ => Bool.eq_false_iff.mpr unset⟩

end Worker

namespace Session

def sent (session : Session) : List Event :=
  session.received ++ session.channel

/-- All events of the session, if the worker goes on under this flag. -/
def outlook (plan : Plan) (flag : Flag) (session : Session) : List Event :=
  session.sent ++ session.worker.toCome plan flag

structure IsOver (session : Session) : Prop where
  gone : session.worker = .gone
  drained : session.channel = []

variable {plan : Plan} {flag : Flag} {session : Session}

theorem reply_eq_ended_iff : session.reply = .ended ↔ session.IsOver := by
  unfold reply
  constructor
  · intro ended
    split at ended
    · cases ended
    next drained gone => exact ⟨gone, drained⟩
    · cases ended
  · rintro ⟨gone, drained⟩
    rw [gone, drained]

theorem outlook_start (plan : Plan) (flag : Flag) (source : Log.Source) :
    (start plan source).outlook plan flag = (run plan flag source).events :=
  Worker.toCome_start plan flag source

theorem play_cons (session : Session) (act : Act) (schedule : List Act) :
    session.play plan (act :: schedule) = (session.act plan act).play plan schedule :=
  rfl

theorem play_append (session : Session) (schedule others : List Act) :
    session.play plan (schedule ++ others) = (session.play plan schedule).play plan others :=
  List.foldl_append

theorem sent_receive (session : Session) : session.receive.sent = session.sent := by
  unfold receive
  split
  · rfl
  next event rest full => simp [sent, full]

/-- What every step of the worker keeps, and the call to stop, as far as the schedule has them,
holds behind it. What was received makes no difference, since all of that was sent before. -/
theorem play_induction {motive : Bool → Worker → List Event → List Deed → Prop} (plan : Plan) (session : Session)
    (schedule : List Act)
    (work : .work ∈ schedule → ∀ cancelled worker sent deeds, motive cancelled worker sent deeds →
      motive cancelled (worker.step plan cancelled) (sent ++ worker.event?.toList) (deeds ++ worker.deed?.toList))
    (cancel : .cancel ∈ schedule → ∀ cancelled worker sent deeds, motive cancelled worker sent deeds →
      motive true worker sent deeds)
    (here : motive session.cancelled session.worker session.sent session.deeds) :
    motive (session.play plan schedule).cancelled (session.play plan schedule).worker
      (session.play plan schedule).sent (session.play plan schedule).deeds := by
  induction schedule generalizing session with
  | nil => exact here
  | cons act rest ih =>
      refine ih (session.act plan act) (fun turn => work (List.mem_cons_of_mem _ turn))
        (fun turn => cancel (List.mem_cons_of_mem _ turn)) ?_
      cases act with
      | work =>
          simp only [Session.act, Session.work]
          split
          · exact here
          · simp only [sent, ← List.append_assoc]
            exact work List.mem_cons_self _ _ _ _ here
      | receive =>
          rw [Session.act, sent_receive]
          unfold receive
          split <;> exact here
      | cancel => exact cancel List.mem_cons_self _ _ _ _ here

/-- Without a call to stop, the session is the pass that is never called off. -/
theorem outlook_never_play (unset : session.cancelled = false) {schedule : List Act} (quiet : .cancel ∉ schedule) :
    (session.play plan schedule).outlook plan .never = session.outlook plan .never := by
  refine (play_induction plan session schedule
    (motive := fun cancelled worker sent _ =>
      cancelled = false ∧ sent ++ worker.toCome plan .never = session.outlook plan .never)
    ?_ (fun turn => absurd turn quiet) ⟨unset, rfl⟩).2
  rintro - cancelled worker sent - ⟨rfl, same⟩
  exact ⟨rfl, by rw [← same, Worker.toCome_step (Worker.finds_never worker), List.append_assoc]⟩

/-- Once it is called off, a session is the pass that finds the flag set wherever it looks. -/
theorem outlook_always_play (set : session.cancelled = true) (schedule : List Act) :
    (session.play plan schedule).outlook plan .always = session.outlook plan .always := by
  refine (play_induction plan session schedule
    (motive := fun cancelled worker sent _ =>
      cancelled = true ∧ sent ++ worker.toCome plan .always = session.outlook plan .always)
    ?_ (fun _ _ _ _ _ known => ⟨rfl, known.2⟩) ⟨set, rfl⟩).2
  rintro - cancelled worker sent - ⟨rfl, same⟩
  exact ⟨rfl, by rw [← same, Worker.toCome_step (Worker.finds_always worker), List.append_assoc]⟩

/-- A worker that still works has not found the flag set. Up to there the session is the pass under
every flag that is unset as long as no more commits were taken. -/
theorem outlook_of_working {schedule : List Act} {task : Task} {reader : Log.Reader} {state : State}
    (works : (session.play plan schedule).worker = .working task reader state)
    (unset : ∀ moment, moment.records + task.ahead ≤ state.records → flag moment = false) :
    (session.play plan schedule).outlook plan flag = session.outlook plan flag := by
  refine play_induction plan session schedule
    (motive := fun _ worker sent _ =>
      ∀ task reader state, worker = .working task reader state →
        (∀ moment, moment.records + task.ahead ≤ state.records → flag moment = false) →
          sent ++ worker.toCome plan flag = session.outlook plan flag)
    ?_ (fun _ _ _ _ _ known => known) (fun _ _ _ _ _ => rfl) task reader state works unset
  intro _ cancelled worker sent _ known task reader state works unset
  -- The worker behind the step still works, so the one before it did, with no more commits taken.
  obtain ⟨before, log, past, rfl, fewer, heeded⟩ := Worker.working_of_step works
  have early : ∀ moment, moment.records + before.ahead ≤ past.records → flag moment = false := fun moment less =>
    unset moment (by omega)
  have finds : (Worker.working before log past).Finds flag cancelled := by
    rintro _ _ _ ⟨⟩ looks
    have level : before.ahead = 0 := by
      cases before with
      | ask => cases looks
      | _ => rfl
    rw [heeded looks]
    exact early past.moment (Nat.le_of_eq (congrArg (past.records + ·) level))
  rw [List.append_assoc, ← Worker.toCome_step finds]
  exact known _ _ _ rfl early

theorem received_prefix_outlook (session : Session) : session.received <+: session.outlook plan flag := by
  rw [outlook, sent, List.append_assoc]
  exact List.prefix_append _ _

namespace IsOver

theorem received (ended : session.IsOver) (plan : Plan) (flag : Flag) :
    session.received = session.outlook plan flag := by
  simp [outlook, sent, ended.gone, ended.drained, Worker.toCome]

theorem act (ended : session.IsOver) (plan : Plan) (act : Act) :
    (session.act plan act).IsOver ∧ (session.act plan act).received = session.received := by
  obtain ⟨worker, channel, cancelled, received, deeds⟩ := session
  obtain ⟨rfl, rfl⟩ : worker = .gone ∧ channel = [] := ⟨ended.gone, ended.drained⟩
  cases act <;> exact ⟨⟨rfl, rfl⟩, rfl⟩

theorem play (ended : session.IsOver) (plan : Plan) (schedule : List Act) :
    (session.play plan schedule).IsOver ∧ (session.play plan schedule).received = session.received := by
  induction schedule generalizing session with
  | nil => exact ⟨ended, rfl⟩
  | cons act rest ih =>
      obtain ⟨still, same⟩ := ended.act plan act
      exact ⟨(ih still).1, (ih still).2.trans same⟩

end IsOver

end Session

end CommitLanes.Pass
