import CommitLanes.Proofs.Pass.Ending

/-! How fast a pass stops.

A worker that is called off goes on to its next look at the flag. There is one behind every row
and one before every commit is taken, so it sends one more row at most and takes one more commit
at most, wherever it is.
-/

set_option autoImplicit false

namespace CommitLanes.Pass

def Event.isRow : Event → Bool
  | row _ => true
  | finished _ => false

theorem countP_isRow_events (run : Run) : run.events.countP Event.isRow = run.rows.length := by
  have each : run.rows.countP (Event.isRow ∘ Event.row) = run.rows.length :=
    List.countP_eq_length.mpr fun _ _ => rfl
  simp [Run.events, List.countP_map, each, Event.isRow]

section Course

variable {plan : Plan} {flag : Flag} (state : State)

theorem runCommits_of_set (set : flag state.moment = true) (items : List (Except Log.Fault Commit)) :
    runCommits plan flag items state = ⟨[], .cancelled state.rows, state.moment⟩ := by
  rw [runCommits_eq, if_pos set]

theorem deliver_of_set (set : flag { state with rows := state.rows + 1 }.moment = true) (row : Layout.Row)
    (rest : State → Run) :
    ∃ reached, Run.after (deliver flag state row) rest = ⟨[row], .cancelled (state.rows + 1), reached⟩ := by
  simp only [deliver, set, if_true, Run.after, Option.toList_some]
  exact ⟨_, rfl⟩

/-- The flag is set while the filter is asked. An accepted row is sent, and the look behind it ends
the pass; behind a rejected one the look before the next commit does. -/
theorem judgeRow_of_set (plan : Plan) (state : State)
    (set : ∀ moment, state.records ≤ moment.records → flag moment = true) (filter : Filter) (row : Layout.Row)
    (items : List (Except Log.Fault Commit)) :
    ∃ reached, Run.after (judgeRow flag state filter row) (runCommits plan flag items) =
      match filter.judge row.node with
      | .accept => ⟨[row], .cancelled (state.rows + 1), reached⟩
      | .reject => ⟨[], .cancelled state.rows, reached⟩
      | .crash said => ⟨[], .failed (.lost (said.getD wordless)), reached⟩ := by
  unfold judgeRow
  cases filter.judge row.node with
  | accept => exact deliver_of_set { state with judged := state.judged + 1 } (set _ (Nat.le_refl _)) row _
  | reject => exact ⟨_, runCommits_of_set { state with judged := state.judged + 1 } (set _ (Nat.le_refl _)) items⟩
  | crash said => exact ⟨_, rfl⟩

theorem length_judgeRow_always (filter : Filter) (row : Layout.Row) (items : List (Except Log.Fault Commit)) :
    (Run.after (judgeRow .always state filter row) (runCommits plan .always items)).rows.length ≤ 1 := by
  obtain ⟨reached, ends⟩ := judgeRow_of_set plan state (fun moment _ => Flag.always_set moment) filter row items
  rw [ends]
  cases filter.judge row.node <;> simp

theorem length_deliver_always (row : Layout.Row) (rest : State → Run) :
    (Run.after (deliver .always state row) rest).rows.length ≤ 1 := by
  obtain ⟨reached, ends⟩ := deliver_of_set state (Flag.always_set _) row rest
  simp [ends]

theorem length_runPlaceholders_always (later : List Commit) (items : List (Except Log.Fault Commit)) :
    (runPlaceholders plan .always (runCommits plan .always items) later state).rows.length ≤ 1 := by
  cases later with
  | nil =>
      rw [runPlaceholders, runCommits_of_set state rfl]
      exact Nat.zero_le _
  | cons commit later => exact length_deliver_always (state.place plan.refs commit).2 _ _

theorem length_runTaken_always (items : List (Except Log.Fault Commit)) :
    (runTaken plan .always state items).rows.length ≤ 1 := by
  unfold runTaken
  split
  · exact Nat.zero_le _
  · exact Nat.zero_le _
  · rw [stepCommit_eq]
    split
    · exact length_deliver_always _ _ _
    · exact length_judgeRow_always _ _ _ _

theorem Task.length_run_always (reader : Log.Reader) (task : Task) :
    (task.run plan .always reader state).rows.length ≤ 1 := by
  cases task with
  | proceed later => exact length_runPlaceholders_always state later _
  | take => exact length_runTaken_always state _
  | ask filter row => exact length_judgeRow_always state filter row _
  | deliver row later =>
      exact length_deliver_always state row
        (runPlaceholders plan .always (runCommits plan .always reader.items) later)
  | look later => exact Nat.zero_le _

end Course

section Whole

variable {plan : Plan} {source : Log.Source}

def Flag.past (records : Nat) : Flag :=
  fun moment => records < moment.records

theorem runCommits_of_ask {flag : Flag} {filter : Filter} {commit : Commit} (state : State)
    (filtered : plan.filter = some filter) (calm : ∀ said, filter.judge (plan.attach commit) ≠ .crash said)
    (unset : flag state.moment = false) (set : ∀ moment, state.records < moment.records → flag moment = true)
    (rest : List (Except Log.Fault Commit)) :
    ∃ reached, runCommits plan flag (.ok commit :: rest) state =
      ⟨if plan.shows (plan.attach commit) then [(state.layout.push (plan.attach commit)).1] else [],
        .cancelled (state.behindCommit plan commit).rows, reached⟩ := by
  let placed := { state with records := state.records + 1 }.place plan.refs commit
  obtain ⟨reached, ends⟩ := judgeRow_of_set plan placed.2 (fun moment late => set moment late) filter placed.1 rest
  refine ⟨reached, ?_⟩
  rw [runCommits_eq, if_neg (Bool.eq_false_iff.mp unset), runTaken, stepCommit_eq, filtered]
  refine ends.trans ?_
  simp only [placed, place_eq, Layout.node_push, State.behindCommit, Plan.shows, filtered]
  cases verdict : filter.judge (plan.attach commit) with
  | accept => simp
  | reject => simp
  | crash said => exact absurd verdict (calm said)

theorem run_past {front : List Commit} {commit : Commit} {rest : List (Except Log.Fault Commit)}
    {filter : Filter} (split : plan.items source = front.map .ok ++ .ok commit :: rest)
    (answered : ∀ earlier ∈ front, plan.Answers (plan.attach earlier)) (filtered : plan.filter = some filter)
    (calm : ∀ said, filter.judge (plan.attach commit) ≠ .crash said) :
    (run plan (.past front.length) source).events =
      (shownRows plan (front ++ [commit])).map .row ++
        [.finished (.cancelled (shownRows plan (front ++ [commit])).length)] := by
  have given : plan.items source ≠ [] := by simp [split]
  obtain ⟨decoder, known⟩ := exists_decoder_of_items given
  have unset : ∀ moment : Moment, moment.records ≤ front.length → Flag.past front.length moment = false :=
    fun moment early => decide_eq_false (Nat.not_lt.mpr early)
  have records : (stateAfter plan front).records = front.length := by rw [stateAfter_eq]
  obtain ⟨reached, ends⟩ := runCommits_of_ask (stateAfter plan front) filtered calm
    (unset _ (Nat.le_of_eq records)) (fun moment late => decide_eq_true (records ▸ late)) rest
  rw [run_append known split answered unset, ends, shownRows_concat, stateAfter_eq]
  simp only [Run.behind, Run.events, State.behindCommit]
  split <;> simp

theorem run_always {decoder : Log.Decoder} (known : plan.settings.decoder = .ok decoder) :
    (run plan .always source).events =
      ((headRows plan).take 1).map .row ++ [.finished (.cancelled ((headRows plan).take 1).length)] := by
  simp only [run, known, headRows, laidOut, List.append_nil]
  cases placeholders plan with
  | nil =>
      rw [runPlaceholders, runCommits_of_set _ rfl]
      rfl
  | cons commit later =>
      rw [List.map_cons, Layout.pushAll_cons]
      rfl

end Whole

namespace Worker

variable {plan : Plan} {worker : Worker}

theorem countP_toCome_always (worker : Worker) : (worker.toCome plan .always).countP Event.isRow ≤ 1 := by
  cases worker with
  | gone => exact Nat.zero_le _
  | reporting outcome => exact Nat.zero_le _
  | working task reader state =>
      rw [toCome, countP_isRow_events]
      exact Task.length_run_always state reader task

theorem deed_step_true (worker : Worker) : (worker.step plan true).deed? ≠ some .take := by
  cases worker with
  | gone =>
      intro taken
      cases taken
  | reporting outcome =>
      intro taken
      cases taken
  | working task reader state =>
      cases task with
      | proceed later => cases later <;> (intro taken; cases taken)
      | take =>
          rw [step]
          rcases reader.next with ⟨(_ | fault | commit), later⟩
          · intro taken
            cases taken
          · intro taken
            cases taken
          · simp only [deed?, Task.afterPlacing]
            cases plan.filter <;> (intro taken; cases taken)
      | ask filter row =>
          simp only [step]
          cases filter.judge row.node <;> (intro taken; cases taken)
      | deliver row later =>
          intro taken
          cases taken
      | look later =>
          intro taken
          cases taken

theorem toCome_of_look (looks : worker.deed? = some .look) :
    ∃ count, worker.toCome plan .always = [.finished (.cancelled count)] := by
  cases worker with
  | gone => cases looks
  | reporting outcome => cases looks
  | working task reader state =>
      cases task with
      | proceed later =>
          cases later with
          | nil => exact ⟨state.rows, by rw [toCome, Task.run, runPlaceholders, runCommits_of_set state rfl]; rfl⟩
          | cons commit later => cases looks
      | look later => exact ⟨state.rows, rfl⟩
      | _ => cases looks

theorem toCome_ask_of_set {flag : Flag} {filter : Filter} {row : Layout.Row} {reader : Log.Reader} {state : State}
    (set : ∀ moment, state.records ≤ moment.records → flag moment = true) :
    (working (.ask filter row) reader state).toCome plan .always =
      (working (.ask filter row) reader state).toCome plan flag := by
  obtain ⟨_, ends⟩ :=
    judgeRow_of_set plan state (fun moment _ => Flag.always_set moment) filter row reader.items
  obtain ⟨_, same⟩ := judgeRow_of_set plan state set filter row reader.items
  rw [toCome, toCome, Task.run, Task.run, ends, same]
  cases filter.judge row.node <;> rfl

end Worker

namespace Session

variable {plan : Plan} {source : Log.Source}

theorem countP_sent_le (session : Session) (schedule : List Act) :
    (session.cancel.play plan schedule).sent.countP Event.isRow ≤ session.sent.countP Event.isRow + 1 := by
  have same := congrArg (List.countP Event.isRow) (@outlook_always_play plan session.cancel rfl schedule)
  have last := @Worker.countP_toCome_always plan session.worker
  simp only [outlook, List.countP_append] at same
  have before : session.cancel.sent = session.sent := rfl
  have there : session.cancel.worker = session.worker := rfl
  rw [before, there] at same
  omega

theorem count_of_ne {deed : Deed} {next : Option Deed} (other : next ≠ some deed) :
    next.toList.count deed = 0 := by
  rw [List.count_eq_zero]
  simpa using other

/-- What the worker was about to do may be a taking, and nothing behind that is. -/
theorem count_take_le (session : Session) (schedule : List Act) :
    (session.cancel.play plan schedule).deeds.count .take ≤ session.deeds.count .take + 1 := by
  have next : session.worker.deed?.toList.count .take ≤ 1 := by
    refine Nat.le_trans List.count_le_length ?_
    cases session.worker.deed? <;> simp
  have bound := play_induction plan session.cancel schedule
    (motive := fun cancelled worker _ deeds =>
      cancelled = true ∧
        deeds.count .take + worker.deed?.toList.count .take ≤ session.deeds.count .take + 1)
    ?_ (fun _ _ _ _ _ known => ⟨rfl, known.2⟩) ⟨rfl, Nat.add_le_add_left next _⟩
  · exact Nat.le_trans (Nat.le_add_right _ _) bound.2
  · rintro - cancelled worker - deeds ⟨rfl, bound⟩
    refine ⟨rfl, ?_⟩
    rw [List.count_append, count_of_ne worker.deed_step_true]
    exact bound

theorem look_or_cancelled (session : Session) (schedule : List Act) :
    (session.cancel.play plan schedule).deeds.count .look = session.deeds.count .look ∨
      ∃ count, .finished (.cancelled count) ∈ session.outlook plan .always := by
  refine (play_induction plan session.cancel schedule
    (motive := fun cancelled worker sent deeds =>
      cancelled = true ∧ sent ++ worker.toCome plan .always = session.outlook plan .always ∧
        (deeds.count .look = session.deeds.count .look ∨
          ∃ count, Event.finished (.cancelled count) ∈ session.outlook plan .always))
    ?_ (fun _ _ _ _ _ known => ⟨rfl, known.2⟩) ⟨rfl, rfl, .inl rfl⟩).2.2
  rintro - cancelled worker sent deeds ⟨rfl, same, course⟩
  refine ⟨rfl, ?_, ?_⟩
  · rw [← same, Worker.toCome_step (Worker.finds_always worker), List.append_assoc]
  · by_cases looks : worker.deed? = some .look
    · obtain ⟨count, last⟩ := @Worker.toCome_of_look plan worker looks
      exact .inr ⟨count, by simp [← same, last]⟩
    · refine course.imp_left fun count => ?_
      rw [List.count_append, count_of_ne looks]
      exact count

theorem outlook_idle_play (session : Session) {schedule : List Act} (idle : .work ∉ schedule) (flag : Flag) :
    (session.play plan schedule).outlook plan flag = session.outlook plan flag :=
  play_induction plan _ _
    (motive := fun _ worker sent _ => sent ++ worker.toCome plan flag = session.outlook plan flag)
    (fun turn => absurd turn idle) (fun _ _ _ _ _ same => same) rfl

/-- Called off while the filter is asked about a commit, a pass shows the commits up to this one. -/
theorem outlook_of_ask {schedule : List Act} {filter : Filter} {row : Layout.Row} {reader : Log.Reader}
    {state : State}
    (asks : ((start plan source).play plan schedule).worker = .working (.ask filter row) reader state)
    (calm : ∀ said, filter.judge row.node ≠ .crash said) :
    ∃ (front : List Commit) (commit : Commit) (rest : List (Except Log.Fault Commit)),
      plan.items source = front.map .ok ++ .ok commit :: rest ∧
      ((start plan source).play plan schedule).deeds.count .take = front.length + 1 ∧
      row.node = plan.attach commit ∧
      ((start plan source).play plan schedule).outlook plan .always =
        (shownRows plan (front ++ [commit])).map .row ++
          [.finished (.cancelled (shownRows plan (front ++ [commit])).length)] := by
  obtain ⟨front, commit, rest, split, same, filtered, answered, records, takes⟩ := exists_front_of_ask asks
  have unset : ∀ moment : Moment, moment.records + 1 ≤ state.records → Flag.past front.length moment = false :=
    fun moment early => decide_eq_false (by omega)
  have set : ∀ moment : Moment, state.records ≤ moment.records → Flag.past front.length moment = true :=
    fun moment late => decide_eq_true (by omega)
  refine ⟨front, commit, rest, split, takes, same, ?_⟩
  calc ((start plan source).play plan schedule).outlook plan .always
      = ((start plan source).play plan schedule).outlook plan (.past front.length) := by
        rw [outlook, outlook, asks, Worker.toCome_ask_of_set set]
    _ = (run plan (.past front.length) source).events :=
        (outlook_of_working asks unset).trans (outlook_start plan _ source)
    _ = _ := run_past split answered filtered (same ▸ calm)

end Session

/-- Called off at any moment, a pass sends one more row at most and takes one more commit at most,
and its outcome says that it was called off unless it ends without another look at the flag.
Called off while the filter is asked, it has shown the commits up to this one; called off before
it starts, at most one placeholder. -/
theorem stops_within_one_commit (plan : Plan) (source : Log.Source) :
    ∃ whole ending, Delivers plan source (whole.map .row ++ [.finished ending]) ∧
      (∀ count, ending ≠ .cancelled count) ∧
      ∀ before after,
        let session := (Session.start plan source).play plan before
        let stopped := session.cancel.play plan after
        stopped.sent.countP Event.isRow ≤ session.sent.countP Event.isRow + 1 ∧
        stopped.deeds.count .take ≤ session.deeds.count .take + 1 ∧
        ∃ rows outcome, stopped.Gives plan rows outcome ∧
          (outcome = .cancelled rows.length ∨
            stopped.deeds.count .look = session.deeds.count .look ∧ rows = whole ∧ outcome = ending) ∧
          (∀ filter row reader state, session.worker = .working (.ask filter row) reader state →
            (∀ said, filter.judge row.node ≠ .crash said) →
              ∃ front commit rest, plan.items source = front.map .ok ++ .ok commit :: rest ∧
                session.deeds.count .take = front.length + 1 ∧ row.node = plan.attach commit ∧
                rows = shownRows plan (front ++ [commit]) ∧ outcome = .cancelled rows.length) ∧
          ∀ decoder, plan.settings.decoder = .ok decoder → .work ∉ before →
            rows = (headRows plan).take 1 ∧ outcome = .cancelled rows.length := by
  refine ⟨_, _, delivers_run plan source, (run_isCutOf plan .never source).uncalled, fun before after => ?_⟩
  intro session stopped
  have called : .cancel ∈ before ++ .cancel :: after := by simp
  obtain ⟨rows, outcome, cut, -, counts, same⟩ := Session.exists_cut plan source called
  have final : (Session.start plan source).play plan (before ++ .cancel :: after) = stopped := by
    rw [Session.play_append, Session.play_cons]
    rfl
  rw [final] at cut
  -- All that the session comes to is settled by where its worker stands when it is called off.
  have bound : session.outlook plan .always = rows.map .row ++ [.finished outcome] :=
    (@Session.outlook_always_play plan session.cancel rfl after).symm.trans cut
  refine ⟨session.countP_sent_le after, session.count_take_le after, rows, outcome,
    Session.gives_of_outlook .always cut, ?_, ?_, ?_⟩
  · rcases same with ⟨whole, ending⟩ | ⟨count, rfl⟩
    · rcases session.look_or_cancelled after with still | ⟨count, told⟩
      · exact .inr ⟨still, whole, ending⟩
      · rw [bound] at told
        obtain rfl : Outcome.cancelled count = outcome := by simpa using told
        exact .inl (congrArg Outcome.cancelled counts)
    · exact .inl (congrArg Outcome.cancelled counts)
  · intro filter row reader state asks calm
    obtain ⟨front, commit, rest, split, takes, node, stops⟩ := Session.outlook_of_ask asks calm
    obtain ⟨rfl, rfl⟩ := eq_of_events_eq (bound.symm.trans stops)
    exact ⟨front, commit, rest, split, takes, node, rfl, rfl⟩
  · intro decoder known idle
    have begins : session.outlook plan .always = (run plan .always source).events :=
      (Session.outlook_idle_play _ idle .always).trans (Session.outlook_start plan .always source)
    rw [run_always known] at begins
    obtain ⟨rfl, rfl⟩ := eq_of_events_eq (bound.symm.trans begins)
    exact ⟨rfl, rfl⟩

end CommitLanes.Pass
