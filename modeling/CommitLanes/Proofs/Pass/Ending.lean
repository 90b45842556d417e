import CommitLanes.Proofs.Pass.Cutting
import CommitLanes.Proofs.Pass.Standing
import CommitLanes.Proofs.Pass.Undisturbed

/-! How a pass ends.

Up to the call to stop a session is the undisturbed pass, and from there on the pass that finds
the flag set wherever it looks. Both come to rows and one outcome, and the second is a cut of the
first. A filter that breaks down ends the pass without another look at the flag.
-/

set_option autoImplicit false

namespace CommitLanes.Pass

section Breakdown

variable {plan : Plan} {source : Log.Source} {filter : Filter} {front : List Commit} {commit : Commit}
  {rest : List (Except Log.Fault Commit)} {said : Option Text}

end Breakdown

namespace Worker

variable {plan : Plan} {worker : Worker}

theorem gone_of_toCome {flag : Flag} (quiet : worker.toCome plan flag = []) : worker = .gone := by
  cases worker with
  | gone => rfl
  | reporting outcome => cases quiet
  | working task reader state => simp [toCome, Run.events] at quiet

end Worker

theorem eq_of_events_eq {rows others : List Layout.Row} {outcome other : Outcome}
    (same : rows.map Event.row ++ [.finished outcome] = others.map Event.row ++ [.finished other]) :
    rows = others ∧ outcome = other := by
  obtain ⟨front, last⟩ := List.append_inj' same rfl
  exact ⟨(List.map_injective_iff.mpr fun _ _ => Event.row.inj) front, by simpa using last⟩

namespace Session

variable {plan : Plan} {source : Log.Source} {session : Session} {rows : List Layout.Row} {outcome : Outcome}

/-- The receiver gets these rows and then this outcome: so far a beginning of that, all of it
when the session is over, and nothing from then on. The outcome is what ends it. -/
structure Gives (plan : Plan) (session : Session) (rows : List Layout.Row) (outcome : Outcome) : Prop where
  ordered : session.received <+: rows.map .row ++ [.finished outcome]
  final : ∀ told, .finished told ∈ session.received → session.reply = .ended
  complete : session.reply = .ended → ∀ later, (session.play plan later).reply = .ended ∧
    (session.play plan later).received = rows.map .row ++ [.finished outcome]

theorem isOver_of_finished (flag : Flag) (same : session.outlook plan flag = rows.map .row ++ [.finished outcome])
    {told : Outcome} (known : .finished told ∈ session.received) : session.IsOver := by
  rw [outlook, sent, List.append_assoc] at same
  rcases List.eq_nil_or_concat (session.channel ++ session.worker.toCome plan flag)
    with none | ⟨others, last, more⟩
  · obtain ⟨drained, quiet⟩ := List.append_eq_nil_iff.mp none
    exact ⟨Worker.gone_of_toCome quiet, drained⟩
  · -- Whatever is still to come has the outcome, so only rows came before.
    rw [more, List.concat_eq_append, ← List.append_assoc] at same
    have front := (List.append_inj' same rfl).1
    have row : .finished told ∈ rows.map Event.row := front ▸ List.mem_append_left others known
    simp at row

theorem gives_of_outlook (flag : Flag) (same : session.outlook plan flag = rows.map .row ++ [.finished outcome]) :
    session.Gives plan rows outcome := by
  refine ⟨same ▸ received_prefix_outlook session, fun told known => ?_, fun ended later => ?_⟩
  · exact reply_eq_ended_iff.mpr (isOver_of_finished flag same known)
  · have isOver := reply_eq_ended_iff.mp ended
    obtain ⟨still, kept⟩ := isOver.play plan later
    exact ⟨reply_eq_ended_iff.mpr still, kept.trans ((isOver.received plan flag).trans same)⟩

theorem exists_cut (plan : Plan) (source : Log.Source) {schedule : List Act} (called : .cancel ∈ schedule) :
    ∃ rows outcome,
      ((start plan source).play plan schedule).outlook plan .always = rows.map .row ++ [.finished outcome] ∧
      rows <+: (run plan .never source).rows ∧ outcome.Counts rows.length ∧
      (rows = (run plan .never source).rows ∧ outcome = (run plan .never source).outcome ∨
        ∃ count, outcome = .cancelled count) := by
  -- The first call counts: before it the flag is unset, behind it set for good.
  obtain ⟨before, after, rfl, quiet⟩ := List.eq_append_cons_of_mem called
  obtain ⟨rows, outcome, whole, ending, cut, undisturbed, shorter, counts, same⟩ :=
    outlook_isCut plan source before .always
  rw [outlook_never_play rfl quiet, outlook_start] at undisturbed
  obtain ⟨rfl, rfl⟩ := eq_of_events_eq undisturbed
  refine ⟨rows, outcome, ?_, shorter, counts, same⟩
  rw [play_append, play_cons]
  exact (outlook_always_play rfl after).trans cut

/-- Whenever a session is called off, if it is, it gives a cut of the undisturbed pass. -/
theorem exists_gives (plan : Plan) (source : Log.Source) (schedule : List Act) :
    ∃ rows outcome, ((start plan source).play plan schedule).Gives plan rows outcome ∧
      rows <+: (run plan .never source).rows ∧ outcome.Counts rows.length ∧
      (rows = (run plan .never source).rows ∧ outcome = (run plan .never source).outcome ∨
        ∃ count, outcome = .cancelled count) := by
  by_cases called : .cancel ∈ schedule
  · obtain ⟨rows, outcome, cut, facts⟩ := exists_cut plan source called
    exact ⟨rows, outcome, gives_of_outlook .always cut, facts⟩
  · have same : ((start plan source).play plan schedule).outlook plan .never = (run plan .never source).events :=
      (outlook_never_play rfl called).trans (outlook_start plan .never source)
    have counts := (run_isCutOf plan .never source).counted
    rw [Nat.zero_add] at counts
    exact ⟨_, _, gives_of_outlook .never same, List.prefix_rfl, counts, .inl ⟨rfl, rfl⟩⟩

end Session

end CommitLanes.Pass
