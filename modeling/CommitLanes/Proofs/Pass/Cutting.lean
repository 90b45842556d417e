import CommitLanes.Proofs.Pass.Outlook

/-! A pass that is called off, beside the same pass that is not.

Being called off leaves out rows at the end and changes nothing before that. The number of rows
goes up with each row that is sent, so it is the right one on whichever way the pass ends.
-/

set_option autoImplicit false

namespace CommitLanes.Pass

def Outcome.Counts (rows : Nat) : Outcome → Prop
  | completed summary => summary.rows = rows
  | cancelled count => count = rows
  | failed _ => True

/-- What the flag may change about one commit, when `sent` rows were sent before it. -/
structure Step.IsCutOf (sent : Nat) (cut whole : Step) : Prop where
  row : cut.row = whole.row
  state : cut.state = whole.state
  count : cut.state.rows = sent + cut.row.toList.length
  counted : ∀ outcome ∈ cut.outcome, outcome.Counts cut.state.rows
  ending : cut.outcome = whole.outcome ∨ ∃ count, cut.outcome = some (.cancelled count)
  uncalled : ∀ count, whole.outcome ≠ some (.cancelled count)

structure Run.IsCutOf (sent : Nat) (cut whole : Run) : Prop where
  rows : cut.rows <+: whole.rows
  counted : cut.outcome.Counts (sent + cut.rows.length)
  ending : cut.rows = whole.rows ∧ cut.outcome = whole.outcome ∨ ∃ count, cut.outcome = .cancelled count
  uncalled : ∀ count, whole.outcome ≠ .cancelled count

theorem Run.prefix_rows_after (step : Step) (rest : State → Run) :
    step.row.toList <+: (Run.after step rest).rows := by
  unfold after
  split
  · exact List.prefix_rfl
  · exact List.prefix_append _ _

namespace Run.IsCutOf

/-- Another look at the flag makes a cut of a cut. -/
theorem looked {other whole : Run} {state : State} (flag : Flag) (goes : other.IsCutOf state.rows whole) :
    IsCutOf state.rows (if flag state.moment then ⟨[], .cancelled state.rows, state.moment⟩ else other) whole := by
  split
  · exact ⟨List.nil_prefix, rfl, .inr ⟨_, rfl⟩, goes.uncalled⟩
  · exact goes

theorem after {sent : Nat} {cut whole : Step} {rest other : State → Run} (step : cut.IsCutOf sent whole)
    (later : ∀ state, (rest state).IsCutOf state.rows (other state)) :
    IsCutOf sent (Run.after cut rest) (Run.after whole other) := by
  have uncalled : ∀ count, (Run.after whole other).outcome ≠ .cancelled count := by
    intro count
    unfold Run.after
    split
    next outcome found => exact fun same => step.uncalled count (found.trans (congrArg some same))
    · exact (later whole.state).uncalled count
  rcases step.ending with same | ⟨called, stops⟩
  · -- The flag makes no difference to this commit: both stop here or both go on.
    cases found : cut.outcome with
    | some outcome =>
        have counts := step.counted outcome found
        rw [step.count] at counts
        have other : whole.outcome = some outcome := same.symm.trans found
        simp only [Run.after, found, other, ← step.row] at uncalled ⊢
        exact ⟨List.prefix_rfl, counts, .inl ⟨rfl, rfl⟩, uncalled⟩
    | none =>
        have goes := later cut.state
        have other : whole.outcome = none := same.symm.trans found
        have counts := goes.counted
        rw [step.count, Nat.add_assoc, ← List.length_append] at counts
        simp only [Run.after, found, other, ← step.row, ← step.state]
        exact ⟨(List.prefix_append_right_inj _).mpr goes.rows, counts,
          goes.ending.imp_left fun same => ⟨congrArg (cut.row.toList ++ ·) same.1, same.2⟩, goes.uncalled⟩
  · -- The flag stops the cut here, however far the other goes on.
    have counts := step.counted _ stops
    rw [step.count] at counts
    have shorter := Run.prefix_rows_after whole other
    rw [← step.row] at shorter
    refine ⟨?_, ?_, .inr ⟨called, ?_⟩, uncalled⟩ <;> simp only [Run.after, stops]
    · exact shorter
    · exact counts

end Run.IsCutOf

section Course

variable (plan : Plan) (flag : Flag) (state : State)

theorem deliver_isCutOf (row : Layout.Row) :
    (deliver flag state row).IsCutOf state.rows (deliver .never state row) := by
  refine ⟨rfl, rfl, rfl, ?_, ?_, nofun⟩
  · by_cases set : flag { state with rows := state.rows + 1 }.moment = true <;>
      simp [deliver, set, Outcome.Counts]
  · by_cases set : flag { state with rows := state.rows + 1 }.moment = true <;>
      simp [deliver, set, Flag.never]

theorem stepPlaceholder_isCutOf (commit : Commit) :
    (stepPlaceholder plan flag state commit).IsCutOf state.rows (stepPlaceholder plan .never state commit) :=
  deliver_isCutOf flag (state.place plan.refs commit).2 (state.place plan.refs commit).1

theorem judgeRow_isCutOf (filter : Filter) (row : Layout.Row) :
    (judgeRow flag state filter row).IsCutOf state.rows (judgeRow .never state filter row) := by
  unfold judgeRow
  cases filter.judge row.node with
  | accept => exact deliver_isCutOf flag { state with judged := state.judged + 1 } row
  | reject => exact ⟨rfl, rfl, rfl, nofun, .inl rfl, nofun⟩
  | crash said => exact ⟨rfl, rfl, rfl, fun _ found => Option.some.inj found ▸ trivial, .inl rfl, nofun⟩

theorem stepCommit_isCutOf (commit : Commit) :
    (stepCommit plan flag state commit).IsCutOf state.rows (stepCommit plan .never state commit) := by
  let placed := { state with records := state.records + 1 }.place plan.refs commit
  rw [stepCommit_eq, stepCommit_eq]
  cases plan.filter with
  | none => exact deliver_isCutOf flag placed.2 placed.1
  | some filter => exact judgeRow_isCutOf flag placed.2 filter placed.1

theorem runTaken_isCutOf (items : List (Except Log.Fault Commit)) :
    (runTaken plan flag state items).IsCutOf state.rows (runTaken plan .never state items) := by
  induction items generalizing state with
  | nil => exact ⟨List.prefix_rfl, rfl, .inl ⟨rfl, rfl⟩, nofun⟩
  | cons item rest ih =>
      cases item with
      | error fault => exact ⟨List.prefix_rfl, trivial, .inl ⟨rfl, rfl⟩, nofun⟩
      | ok commit =>
          refine .after (stepCommit_isCutOf plan flag state commit) fun behind => ?_
          rw [runCommits_eq, runCommits_eq plan .never]
          exact .looked flag (ih behind)

theorem runCommits_isCutOf (items : List (Except Log.Fault Commit)) :
    (runCommits plan flag items state).IsCutOf state.rows (runCommits plan .never items state) := by
  rw [runCommits_eq, runCommits_eq plan .never]
  exact .looked flag (runTaken_isCutOf plan flag state items)

theorem runPlaceholders_isCutOf (items : List (Except Log.Fault Commit)) (later : List Commit) :
    (runPlaceholders plan flag (runCommits plan flag items) later state).IsCutOf state.rows
      (runPlaceholders plan .never (runCommits plan .never items) later state) := by
  induction later generalizing state with
  | nil => exact runCommits_isCutOf plan flag state items
  | cons commit later ih => exact .after (stepPlaceholder_isCutOf plan flag state commit) ih

theorem run_isCutOf (source : Log.Source) : (run plan flag source).IsCutOf 0 (run plan .never source) := by
  unfold run
  split
  · exact ⟨List.prefix_rfl, trivial, .inl ⟨rfl, rfl⟩, nofun⟩
  · exact runPlaceholders_isCutOf plan flag (.start plan.settings) _ _

theorem Task.run_isCutOf (reader : Log.Reader) (task : Task) :
    (task.run plan flag reader state).IsCutOf state.rows (task.run plan .never reader state) := by
  cases task with
  | proceed later => exact runPlaceholders_isCutOf plan flag state _ later
  | take => exact runTaken_isCutOf plan flag state _
  | ask filter row =>
      exact .after (judgeRow_isCutOf flag state filter row) fun behind => runCommits_isCutOf plan flag behind _
  | deliver row later =>
      exact .after (deliver_isCutOf flag state row) fun behind => runPlaceholders_isCutOf plan flag behind _ later
  | look later => exact .looked flag (runPlaceholders_isCutOf plan flag state _ later)

end Course

/-- The count of a worker against the events that were sent: only rows as long as the outcome
was not sent, and as many as it says. -/
def Worker.Counted (sent : List Event) : Worker → Prop
  | working _ _ state => ∃ rows : List Layout.Row, sent = rows.map .row ∧ rows.length = state.rows
  | reporting outcome => ∃ rows : List Layout.Row, sent = rows.map .row ∧ outcome.Counts rows.length
  | gone => ∃ (rows : List Layout.Row) (outcome : Outcome),
      sent = rows.map .row ++ [.finished outcome] ∧ outcome.Counts rows.length

namespace Worker

variable {plan : Plan} {cancelled : Bool} {worker : Worker} {sent : List Event}

theorem counted_start (plan : Plan) (source : Log.Source) : (start plan source).Counted [] := by
  unfold start
  split
  · exact ⟨[], rfl, trivial⟩
  · exact ⟨[], rfl, rfl⟩

theorem counted_heed {onward : Task} {reader : Log.Reader} {state : State}
    (counted : (working onward reader state).Counted sent) :
    (heed cancelled onward reader state).Counted sent := by
  unfold heed
  split
  · obtain ⟨rows, same, count⟩ := counted
    exact ⟨rows, same, count.symm⟩
  · exact counted

theorem counted_step (counted : worker.Counted sent) :
    (worker.step plan cancelled).Counted (sent ++ worker.event?.toList) := by
  cases worker with
  | gone => simpa [event?, step] using counted
  | reporting outcome =>
      obtain ⟨rows, rfl, counted⟩ := counted
      exact ⟨rows, outcome, rfl, counted⟩
  | working task reader state =>
      obtain ⟨rows, rfl, count⟩ := counted
      cases task with
      | proceed later =>
          cases later with
          | nil => simpa [event?, step] using counted_heed ⟨rows, rfl, count⟩
          | cons commit later => simpa [event?, step] using ⟨rows, rfl, count⟩
      | take =>
          simp only [event?, step, Option.toList_none, List.append_nil]
          rcases reader.next with ⟨(_ | fault | commit), later⟩
          · exact ⟨rows, rfl, count.symm⟩
          · exact ⟨rows, rfl, trivial⟩
          · exact ⟨rows, rfl, count⟩
      | ask filter row =>
          simp only [event?, step, Option.toList_none, List.append_nil]
          cases filter.judge row.node with
          | accept => exact ⟨rows, rfl, count⟩
          | reject => exact ⟨rows, rfl, count⟩
          | crash said => exact ⟨rows, rfl, trivial⟩
      | deliver row later => exact ⟨rows ++ [row], by simp [event?], by simp [count]⟩
      | look later => simpa [event?, step] using counted_heed ⟨rows, rfl, count⟩

end Worker

namespace Session

variable {plan : Plan} {source : Log.Source} {schedule : List Act}

theorem counted_play :
    ((start plan source).play plan schedule).worker.Counted ((start plan source).play plan schedule).sent :=
  play_induction plan _ _ (motive := fun _ worker sent _ => worker.Counted sent)
    (fun _ _ _ _ _ => Worker.counted_step) (fun _ _ _ _ _ counted => counted) (Worker.counted_start plan source)

/-- Wherever a session stands, it is rows and one outcome, and the flag as it is found from here on
makes the difference of a cut. -/
theorem outlook_isCut (plan : Plan) (source : Log.Source) (schedule : List Act) (flag : Flag) :
    ∃ rows outcome whole ending,
      ((start plan source).play plan schedule).outlook plan flag = rows.map .row ++ [.finished outcome] ∧
      ((start plan source).play plan schedule).outlook plan .never = whole.map .row ++ [.finished ending] ∧
      rows <+: whole ∧ outcome.Counts rows.length ∧
      (rows = whole ∧ outcome = ending ∨ ∃ count, outcome = .cancelled count) := by
  have counted := @counted_play plan source schedule
  unfold outlook
  revert counted
  generalize ((start plan source).play plan schedule).sent = sent
  generalize ((start plan source).play plan schedule).worker = worker
  intro counted
  cases worker with
  | gone =>
      obtain ⟨rows, outcome, rfl, counts⟩ := counted
      exact ⟨rows, outcome, rows, outcome, List.append_nil _, List.append_nil _, List.prefix_rfl, counts,
        .inl ⟨rfl, rfl⟩⟩
  | reporting outcome =>
      obtain ⟨rows, rfl, counts⟩ := counted
      exact ⟨rows, outcome, rows, outcome, rfl, rfl, List.prefix_rfl, counts, .inl ⟨rfl, rfl⟩⟩
  | working task reader state =>
      obtain ⟨rows, rfl, count⟩ := counted
      have cut := Task.run_isCutOf plan flag state reader task
      refine ⟨rows ++ (task.run plan flag reader state).rows, (task.run plan flag reader state).outcome,
        rows ++ (task.run plan .never reader state).rows, (task.run plan .never reader state).outcome,
        by simp [Worker.toCome, Run.events], by simp [Worker.toCome, Run.events],
        (List.prefix_append_right_inj _).mpr cut.rows, ?_, ?_⟩
      · rw [List.length_append, count]
        exact cut.counted
      · exact cut.ending.imp_left fun same => ⟨congrArg _ same.1, same.2⟩

end Session

end CommitLanes.Pass
