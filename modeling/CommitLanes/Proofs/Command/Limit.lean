import CommitLanes.Proofs.Command.Job
import CommitLanes.Proofs.Pass.Heeding

/-! What a limit does to the end of a layout.

The rows up to the limit are printed in any case. But the pass is called off when one row more
comes, so a fault of the log behind the last printed row still fails the layout, unless another
row comes before it and the worker finds the flag set in time.
-/

set_option autoImplicit false

namespace CommitLanes.Command

open Pass (Act Outcome Session)

variable {job : Job} {schedule : List Act} {answer : Response}

/-- Without a call to stop, the console comes to what the undisturbed pass comes to. -/
theorem exists_undisturbed (job : Job) :
    let run := Pass.run job.plan .never job.material.source
    ∃ schedule, job.answer? schedule = some (job.respond (linesOf job.printer job.limit run.rows) run.outcome) := by
  intro run
  let rounds := (Console.start job).session.effort + 2
  let turns := (List.replicate rounds [Act.work, .receive]).flatten
  have quiet : .cancel ∉ turns := by
    intro turn
    obtain ⟨round, among, turn⟩ := List.mem_flatten.mp turn
    rw [List.eq_of_mem_replicate among] at turn
    exact absurd turn (by decide)
  have fair : Session.Fair rounds turns := Session.fair_replicate (by decide) rounds
  obtain ⟨answer, answered⟩ := Console.exists_answer_of_fair fair
  rcases Console.answer_eq answered with rfl | ⟨-, called, -⟩
  · exact ⟨turns, answered⟩
  · exact absurd called quiet

/-- A layout that is told as a whole is called off wherever a row comes that is one too many. -/
theorem status_perform {limit : Nat} (limited : job.limit = some limit)
    (more : limit < (Pass.run job.plan .never job.material.source).rows.length) : job.perform.status = 0 := by
  rw [Job.perform, status_respond]
  intro failure failed
  obtain ⟨-, -, ⟨rows, -⟩ | ⟨count, called⟩, -⟩ := Pass.run_isCutOf job.plan (flagOf job.limit) job.material.source
  · have sends : (Pass.run job.plan (flagOf job.limit) job.material.source).rows ≠ [] := by
      rw [rows]
      exact List.ne_nil_of_length_pos (Nat.zero_lt_of_lt more)
    rcases Pass.heeds_run job.plan (flagOf job.limit) job.material.source sends
      with ⟨count, called⟩ | ⟨moment, last, unset⟩
    · cases failed.symm.trans called
    · rw [flagOf_eq, limited, last, rows, Nat.zero_add] at unset
      exact absurd more (of_decide_eq_false unset)
  · cases failed.symm.trans called

theorem status_respond_of_ne_zero {output : Text} {outcome : Outcome}
    (fails : (job.respond output outcome).status ≠ 0) : (job.respond output outcome).status = 1 := by
  cases outcome with
  | failed failure => rfl
  | _ => exact absurd rfl fails

/-- What a limit promises, and what it does not. The rows up to the limit are printed and nothing
else. A log without a fault never fails. With a fault, the layout fails for sure if no row beyond
the limit comes before it, even if the limit was reached; if one does, it depends on when the
worker finds out, and the layout told as a whole does not fail. -/
theorem limit_is_reached_with_the_next_row {environment : Environment} {options : LayoutOptions}
    {settings : Settings} {limit : Nat} (loads : settingsOf environment options.config = .ok settings)
    (limited : options.limit = some limit) (source : Log.Source) :
    let job := jobOf environment options settings (.ofLog source)
    ∃ (decoder : Log.Decoder) (rows : List Layout.Row) (ending : Outcome), settings.decoder = .ok decoder ∧
      Pass.Delivers job.plan source (rows.map .row ++ [.finished ending]) ∧
      let output := (rows.take limit).flatMap fun row => job.printer.format row ++ ['\n']
      let sound := Pass.faultOf (Log.Reader.start source decoder).items = none
      (∃ rounds, ∀ schedule, Session.Fair rounds schedule → ∃ answer, job.answer? schedule = some answer) ∧
      (∀ schedule answer, job.answer? schedule = some answer →
        answer.output = output ∧ (sound → answer.status = 0) ∧
          (¬ sound → rows.length ≤ limit → answer.status = 1)) ∧
      (¬ sound → limit < rows.length →
        (∃ schedule answer, job.answer? schedule = some answer ∧ answer.status = 0) ∧
        ∃ schedule answer, job.answer? schedule = some answer ∧ answer.status = 1) ∧
      ∀ file, options.input = some file → logOf environment file = .ok source →
        (layout environment options).output = output ∧
          ((layout environment options).status = 0 ↔ sound ∨ limit < rows.length) := by
  intro job
  obtain ⟨decoder, known⟩ := exists_decoder loads
  let run := Pass.run job.plan .never source
  refine ⟨decoder, run.rows, run.outcome, known, Pass.delivers_run job.plan source, ?_⟩
  intro output sound
  have limitedToo : job.limit = some limit := limited
  have lines : linesOf job.printer job.limit run.rows = output := by
    rw [limitedToo]
    rfl
  have undisturbed : ∀ output, (job.respond output run.outcome).status = 0 ↔ sound := status_undisturbed known
  have told : ∀ schedule answer, job.answer? schedule = some answer →
      answer.output = output ∧ (sound → answer.status = 0) ∧
        (¬ sound → run.rows.length ≤ limit → answer.status = 1) := by
    intro schedule answer answered
    rcases Console.answer_eq answered with rfl | ⟨rfl, -, bound, same, more⟩
    · refine ⟨output_respond.trans lines, (undisturbed _).mpr, fun damaged _ => ?_⟩
      exact status_respond_of_ne_zero (mt (undisturbed _).mp damaged)
    · obtain rfl : limit = bound := Option.some.inj (limitedToo.symm.trans same)
      exact ⟨lines, fun _ => rfl, fun _ few => absurd more (Nat.not_lt_of_le few)⟩
  obtain ⟨prompt, performed⟩ := Console.exists_perform job
  refine ⟨⟨_, fun _ => Console.exists_answer_of_fair⟩, told,
    fun damaged more => ⟨⟨prompt, _, performed, status_perform limitedToo more⟩, ?_⟩, fun file given found => ?_⟩
  · obtain ⟨late, answered⟩ := exists_undisturbed job
    exact ⟨late, _, answered, status_respond_of_ne_zero (mt (undisturbed _).mp damaged)⟩
  · rw [layout_eq loads given found]
    obtain ⟨printed, succeeds, fails⟩ := told prompt _ performed
    refine ⟨printed, fun success => ?_, fun either => either.elim succeeds (status_perform limitedToo)⟩
    by_contra neither
    obtain ⟨damaged, few⟩ := not_or.mp neither
    rw [fails damaged (Nat.le_of_not_lt few)] at success
    cases success

section Sample

def damagedContent : Bytes :=
  sampleContent ++ Bytes.ofString "junk"

/-- One row beyond the limit comes before the fault, and either end is possible. -/
theorem limit_is_reached_in_time_or_not :
    settingsOf (sampleEnvironment damagedContent) sampleOptions.config = .ok .standard ∧
      sampleOptions.limit = some 1 ∧
      (∃ schedule answer, (sampleJob damagedContent).answer? schedule = some answer ∧ answer.status = 0) ∧
      ∃ schedule answer, (sampleJob damagedContent).answer? schedule = some answer ∧ answer.status = 1 := by
  have loads : settingsOf (sampleEnvironment damagedContent) sampleOptions.config = .ok .standard := rfl
  have limited : sampleOptions.limit = some 1 := rfl
  obtain ⟨decoder, rows, ending, known, -, -, -, either, told⟩ :=
    limit_is_reached_with_the_next_row loads limited (.ofBytes damagedContent)
  obtain rfl : Pass.sampleDecoder = decoder := Except.ok.inj (Eq.trans (by rfl) known)
  have damaged : ¬ Pass.faultOf (Log.Reader.start (.ofBytes damagedContent) Pass.sampleDecoder).items = none := by
    decide +kernel
  have success : (layout (sampleEnvironment damagedContent) sampleOptions).status = 0 := by decide +kernel
  have more := ((told "log".toList rfl (logOf_sample damagedContent)).2.mp success).resolve_left damaged
  exact ⟨loads, limited, either damaged more⟩

def cutContent : Bytes :=
  (Pass.sampleEntry (Pass.sampleId 1) [] "first").encode ++ Bytes.ofString "junk"

/-- The limit was reached before the fault, and the layout fails however its parties take their turns. -/
theorem limit_was_reached_and_failed :
    (∃ (rows : List Layout.Row) (fault : Log.Fault),
      Pass.Delivers (sampleJob cutContent).plan (.ofBytes cutContent)
        (rows.map .row ++ [.finished (.failed (.log fault))]) ∧ sampleOptions.limit = some rows.length) ∧
      layout (sampleEnvironment cutContent) sampleOptions =
        ⟨1, "* 01010101 2023-11-14 first\n".toList, ("Error: Layout failed\n\nCaused by:\n" ++
          "    malformed record #1: header line is not terminated\n").toList⟩ ∧
      ∀ schedule answer, (sampleJob cutContent).answer? schedule = some answer → answer.status = 1 := by
  let run := Pass.run (sampleJob cutContent).plan .never (.ofBytes cutContent)
  have ending : run.outcome = .failed (.log (.malformed 1 .unterminatedHeader)) := by decide +kernel
  have length : run.rows.length = 1 := by decide +kernel
  have delivers : Pass.Delivers (sampleJob cutContent).plan (.ofBytes cutContent)
      (run.rows.map .row ++ [.finished run.outcome]) := Pass.delivers_run _ _
  rw [ending] at delivers
  refine ⟨⟨run.rows, _, delivers, congrArg some length.symm⟩, by decide +kernel, fun schedule answer answered => ?_⟩
  rcases Console.answer_eq answered with rfl | ⟨-, -, limit, limited, more⟩
  · change ((sampleJob cutContent).respond _ run.outcome).status = 1
    rw [ending]
    rfl
  · obtain rfl : 1 = limit := Option.some.inj limited
    exact absurd (Nat.lt_of_lt_of_eq more length) (Nat.lt_irrefl 1)

end Sample

end CommitLanes.Command
