import CommitLanes.Proofs.Command.Turns
import CommitLanes.Proofs.Pass.Ending

/-! What is printed does not depend on who was faster.

A console has made of the rows it received what a whole list of them is made of at once. It asks
for an end only when it has all it will print, so what the worker does from there on, or has done
already, is not seen in the output, and in the end only if it is a failure.
-/

set_option autoImplicit false

namespace CommitLanes.Command

open Pass (Act Event Outcome Session)

variable {job : Job} {console : Console} {schedule : List Act} {rows others : List Layout.Row} {answer : Response}
  {ending : Outcome}

theorem linesOf_of_shorter {printer : Printer} {limit : Nat} {whole : List Layout.Row} (shorter : rows <+: whole)
    (enough : limit ≤ rows.length) : linesOf printer (some limit) rows = linesOf printer (some limit) whole := by
  obtain ⟨more, rfl⟩ := shorter
  simp only [linesOf, Option.getD_some, List.take_append_of_le_length enough]

namespace Console

section Printing

structure Shows (job : Job) (rows : List Layout.Row) (console : Console) : Prop where
  output : console.output = linesOf job.printer job.limit rows
  printed : console.printed = min (job.limit.getD rows.length) rows.length
  requested : console.requested = job.limit.any (· < rows.length)

theorem Shows.print (shows : console.Shows job rows) (row : Layout.Row) :
    (console.print job row).Shows job (rows ++ [row]) := by
  obtain ⟨plan, material, printer, limit⟩ := job
  obtain ⟨output, printed, requested⟩ := shows
  dsimp only at output printed requested
  cases limit with
  | none =>
      simp only [Option.getD_none, Nat.min_self] at printed
      refine ⟨?_, by simp [Console.print, printed], requested⟩
      simp only [Console.print, Option.any_none, Bool.false_eq_true, if_false, output, linesOf, Option.getD_none,
        List.take_length, List.flatMap_append, List.flatMap_singleton]
  | some bound =>
      simp only [Option.getD_some] at printed
      by_cases full : bound ≤ rows.length
      · -- The row is dropped, since all that is to be printed was printed.
        have dropped : console.print ⟨plan, material, printer, some bound⟩ row =
            { console with requested := true } := by
          simp [Console.print, printed, full]
        rw [dropped]
        refine ⟨output.trans (linesOf_of_shorter (List.prefix_append _ _) full), ?_, ?_⟩
        · simp only [printed, Option.getD_some, List.length_append, List.length_singleton]
          omega
        · simpa using Nat.lt_succ_of_le full
      · have below : ¬ bound ≤ min bound rows.length := fun least => full (Nat.le_trans least (Nat.min_le_right _ _))
        have room : console.print ⟨plan, material, printer, some bound⟩ row = { console with
            output := console.output ++ (printer.format row ++ ['\n'])
            printed := console.printed + 1 } := by
          simp only [Console.print, printed, Option.any_some, below, decide_false, Bool.false_eq_true, if_false]
        have all : rows.length + 1 ≤ bound := Nat.lt_of_not_le full
        rw [room]
        refine ⟨?_, ?_, ?_⟩
        · simp [output, linesOf, List.take_of_length_le, all, Nat.le_of_lt all]
        · simp only [printed, Option.getD_some, List.length_append, List.length_singleton]
          omega
        · simp only [requested, Option.any_some, List.length_append, List.length_singleton]
          rw [decide_eq_false (by omega), decide_eq_false (by omega)]

end Printing

section Ending

theorem Shows.beside (shows : console.Shows job rows) (session : Session) (response : Option Response) :
    Shows job rows { console with session, response } :=
  ⟨shows.output, shows.printed, shows.requested⟩

/-- Where a console stands that has received these rows: it waits for more, or it has the outcome
too. A failure has ended it by then, and anything else ends it at its next turn. -/
structure Stands (job : Job) (rows : List Layout.Row) (console : Console) : Prop where
  shows : console.Shows job rows
  standing : console.session.received = rows.map .row ∧ console.response = none ∨
    ∃ outcome, console.session.received = rows.map .row ++ [.finished outcome] ∧
      (console.response = none ∧ job.respond console.output outcome = .done console.output ∨
        console.response = some (job.respond console.output outcome))

theorem response_print (console : Console) (row : Layout.Row) :
    (console.print job row).response = console.response := by
  unfold print
  split <;> rfl

theorem Shows.handle_finished (shows : console.Shows job rows) (outcome : Outcome) :
    (console.handle job (.finished outcome)).Shows job rows ∧
      (console.handle job (.finished outcome)).output = console.output := by
  cases outcome <;> exact ⟨shows.beside _ _, rfl⟩

theorem response_handle_finished (going : console.response = none) (outcome : Outcome) :
    (console.handle job (.finished outcome)).response = none ∧
        job.respond console.output outcome = .done console.output ∨
      (console.handle job (.finished outcome)).response = some (job.respond console.output outcome) := by
  cases outcome with
  | failed failure => exact .inr rfl
  | _ => exact .inl ⟨going, rfl⟩

theorem received_work (session : Session) (plan : Pass.Plan) : (session.work plan).received = session.received := by
  unfold Session.work
  split <;> rfl

theorem received_of_reply {session : Session} {event : Event} (came : session.reply = .event event) :
    session.receive.received = session.received ++ [event] := by
  unfold Session.reply at came
  split at came
  next first rest channel =>
    cases came
    simp only [Session.receive, channel]
  all_goals cases came

/-- What a console that goes on does with each reply. -/
theorem receive_of_reply (going : console.response = none) :
    console.receive job = match console.session.reply with
      | .event event => { console with session := console.session.receive }.handle job event
      | .pending => console
      | .ended => { console with response := some (.done console.output) } := by
  have waits : ¬ console.response.isSome = true := by simp [going]
  exact if_neg waits

/-- Rows come before the outcome, and the outcome comes before the end. -/
theorem Stands.receive (stands : console.Stands job rows) (gives : console.session.Gives job.plan others ending) :
    ∃ more, (console.receive job).Stands job more := by
  obtain ⟨shows, ⟨received, going⟩ | ⟨outcome, received, ⟨going, quiet⟩ | told⟩⟩ := stands
  · rw [receive_of_reply going]
    cases came : console.session.reply with
    | pending => exact ⟨rows, shows, .inl ⟨received, going⟩⟩
    | ended =>
        have all := (gives.complete came []).2
        change console.session.received = _ at all
        have last : Event.finished ending ∈ rows.map Event.row := by simp [← received, all]
        simp at last
    | event event =>
        have more := received_of_reply came
        rw [received] at more
        let next : Console := { console with session := console.session.receive }
        have same : next.Shows job rows := shows.beside _ _
        change ∃ rows, (next.handle job event).Stands job rows
        cases event with
        | row row =>
            refine ⟨rows ++ [row], same.print row, .inl ⟨?_, (response_print next row).trans going⟩⟩
            rw [session_handle, List.map_append]
            exact more
        | finished outcome =>
            obtain ⟨kept, output⟩ := same.handle_finished outcome
            refine ⟨rows, kept, .inr ⟨outcome, ?_, ?_⟩⟩
            · rw [session_handle]
              exact more
            · rw [output]
              exact @response_handle_finished job next going outcome
  · have ended : console.session.reply = .ended := gives.final outcome (by simp [received])
    rw [receive_of_reply going, ended]
    exact ⟨rows, shows.beside _ _, .inr ⟨outcome, received, .inr (congrArg some quiet.symm)⟩⟩
  · rw [Console.receive, told, Option.isSome_some, if_pos rfl]
    exact ⟨rows, shows, .inr ⟨outcome, received, .inr told⟩⟩

theorem Stands.beside (stands : console.Stands job rows) {session : Session}
    (same : session.received = console.session.received) : Stands job rows { console with session } := by
  refine ⟨stands.shows.beside _ _, ?_⟩
  dsimp only
  rw [same]
  exact stands.standing

theorem Stands.act (stands : console.Stands job rows) (gives : console.session.Gives job.plan others ending)
    (act : Act) : ∃ more, (console.act job act).Stands job more := by
  cases act with
  | receive => exact stands.receive gives
  | work => exact ⟨rows, stands.beside (received_work console.session job.plan)⟩
  | cancel =>
      rw [Console.act]
      split
      · exact ⟨rows, stands.beside rfl⟩
      · exact ⟨rows, stands⟩

theorem session_eq (job : Job) (schedule : List Act) :
    ((start job).play job schedule).session =
      (Session.start job.plan job.material.source).play job.plan ((start job).turns job schedule) :=
  session_play (start job) schedule

theorem exists_gives (job : Job) (schedule : List Act) :
    let run := Pass.run job.plan .never job.material.source
    ∃ rows outcome, ((start job).play job schedule).session.Gives job.plan rows outcome ∧ rows <+: run.rows ∧
      (rows = run.rows ∧ outcome = run.outcome ∨ ∃ count, outcome = .cancelled count) := by
  intro run
  obtain ⟨rows, outcome, gives, shorter, -, same⟩ :=
    Session.exists_gives job.plan job.material.source ((start job).turns job schedule)
  refine ⟨rows, outcome, ?_, shorter, same⟩
  rw [session_eq]
  exact gives

theorem exists_stands (job : Job) (schedule : List Act) :
    ∃ rows, ((start job).play job schedule).Stands job rows := by
  induction schedule using List.reverseRecOn with
  | nil =>
      refine ⟨[], ⟨?_, ?_, ?_⟩, .inl ⟨rfl, rfl⟩⟩
      · simp [linesOf, play, start]
      · simp [play, start]
      · cases limit : job.limit <;> simp [play, start]
  | append_singleton schedule act ih =>
      obtain ⟨rows, stands⟩ := ih
      obtain ⟨others, ending, gives, -⟩ := exists_gives job schedule
      rw [play_append]
      exact stands.act gives act

theorem exists_received (answered : ((start job).play job schedule).response = some answer) :
    ∃ rows outcome, ((start job).play job schedule).Shows job rows ∧
      ((start job).play job schedule).session.received = rows.map .row ++ [.finished outcome] ∧
      ((start job).play job schedule).session.IsOver ∧
      answer = job.respond (linesOf job.printer job.limit rows) outcome := by
  obtain ⟨rows, shows, ⟨-, going⟩ | ⟨outcome, received, ⟨going, -⟩ | ended⟩⟩ := exists_stands job schedule
  · rw [going] at answered
    cases answered
  · rw [going] at answered
    cases answered
  · rw [ended, shows.output] at answered
    cases answered
    obtain ⟨others, ending, gives, -⟩ := exists_gives job schedule
    have isOver := Session.reply_eq_ended_iff.mp (gives.final outcome (by simp [received]))
    exact ⟨rows, outcome, shows, received, isOver, rfl⟩

/-- The output is that of the undisturbed pass whatever happens, and so is the status, unless the
pass was called off with more rows than are printed. -/
theorem answer_eq (answered : ((start job).play job schedule).response = some answer) :
    let run := Pass.run job.plan .never job.material.source
    let output := linesOf job.printer job.limit run.rows
    answer = job.respond output run.outcome ∨
      answer = .done output ∧ .cancel ∈ schedule ∧ ∃ limit, job.limit = some limit ∧ limit < run.rows.length := by
  intro run output
  obtain ⟨rows, outcome, shows, received, isOver, rfl⟩ := exists_received answered
  obtain ⟨others, ending, gives, shorter, same⟩ := exists_gives job schedule
  have all := (gives.complete (Session.reply_eq_ended_iff.mpr isOver) []).2
  obtain ⟨rfl, rfl⟩ := Pass.eq_of_events_eq (received.symm.trans all)
  rcases same with ⟨rfl, rfl⟩ | ⟨count, rfl⟩
  · exact .inl rfl
  by_cases called : .cancel ∈ (start job).turns job schedule
  · -- The console asked, so it had more rows than it prints, and prints what it would have printed.
    have asked := requested_of_cancel called
    rw [shows.requested] at asked
    obtain ⟨limit, limited, more⟩ := (Option.any_eq_true _ _).mp asked
    have more : limit < rows.length := of_decide_eq_true more
    have same := @linesOf_of_shorter rows job.printer limit _ shorter (Nat.le_of_lt more)
    rw [← limited] at same
    have beyond := Nat.lt_of_lt_of_le more shorter.length_le
    exact .inr ⟨congrArg Response.done same, mem_of_mem_turns called, limit, limited, beyond⟩
  · have undisturbed := isOver.received job.plan .never
    rw [received, session_eq, Session.outlook_never_play rfl called, Session.outlook_start] at undisturbed
    obtain ⟨rfl, same⟩ := Pass.eq_of_events_eq undisturbed
    exact .inl (congrArg _ same)

theorem exists_answer_of_isOver (isOver : console.session.IsOver) (turn : .receive ∈ schedule) :
    ∃ answer, (console.play job schedule).response = some answer := by
  induction schedule generalizing console with
  | nil => cases turn
  | cons act rest ih =>
      rcases List.mem_cons.mp turn with rfl | later
      · cases ended : console.response with
        | some answer => exact ⟨answer, response_play ended (.receive :: rest)⟩
        | none =>
            have now : (console.act job .receive).response = some (.done console.output) := by
              rw [Console.act, receive_of_reply ended, Session.reply_eq_ended_iff.mpr isOver]
            exact ⟨_, response_play now rest⟩
      · have still : (console.act job act).session.IsOver := by
          rw [session_act]
          exact (isOver.play job.plan _).1
        exact ih still later

/-- The command ends, whatever the order of the turns, if both parties have enough of them. -/
theorem exists_answer_of_fair (fair : Session.Fair ((start job).session.effort + 2) schedule) :
    ∃ answer, ((start job).play job schedule).response = some answer := by
  obtain ⟨parts, rfl, enough, each⟩ := fair
  obtain ⟨front, last, rfl⟩ : ∃ front last, parts = front ++ [last] := by
    rcases List.eq_nil_or_concat parts with rfl | ⟨front, last, rfl⟩
    · cases enough
    · exact ⟨front, last, List.concat_eq_append⟩
  rw [List.flatten_append, List.flatten_singleton, play_append]
  cases ended : ((start job).play job front.flatten).response with
  | some answer => exact ⟨answer, response_play ended last⟩
  | none =>
      -- All rounds but the last make the session end, and the last one tells the console.
      have rounds : Session.Fair ((start job).session.effort + 1) front.flatten :=
        ⟨front, rfl, by simpa using enough, fun round member => each round (List.mem_append_left _ member)⟩
      refine exists_answer_of_isOver ?_ (each last (List.mem_append_right _ (List.mem_singleton_self last))).2
      rw [session_play]
      exact Session.isOver_of_fair (fair_turns ended rounds)

end Ending

end Console

end CommitLanes.Command
