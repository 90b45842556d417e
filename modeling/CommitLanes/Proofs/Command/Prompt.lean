import CommitLanes.Proofs.Command.Console
import CommitLanes.Proofs.Pass.Stopping

/-! A layout told as a whole is one that two parties share.

The definition that runs looks at the rows that were delivered wherever the worker looks at its
flag. A console does the same with a worker that lays nothing out before the console has dealt
with the last row, and that knows at once what it was asked.
-/

set_option autoImplicit false

namespace CommitLanes.Command

open Pass (Act Event Flag Outcome Session)

variable {job : Job} {console : Console} {rows others : List Layout.Row} {ending : Outcome}

theorem flagOf_eq (limit : Option Nat) (moment : Pass.Moment) :
    flagOf limit moment = limit.any (· < moment.rows) := by
  cases limit <;> rfl

namespace Console

/-- Turns in which nothing is laid out before the console has dealt with the last row, and the
worker knows at once that it was asked to stop. -/
def prompt (rounds : Nat) : List Act :=
  (List.replicate rounds [.work, .receive, .cancel]).flatten

theorem prompt_succ (rounds : Nat) : prompt (rounds + 1) = prompt rounds ++ [.work, .receive, .cancel] := by
  rw [prompt, List.replicate_succ', List.flatten_append, List.flatten_singleton]
  rfl

/-- The console has dealt with all that was sent, the worker knows what it was asked, and what is
still to come is what comes of a pass whose flag is that of the limit. -/
structure Abreast (job : Job) (console : Console) : Prop where
  drained : console.session.channel = []
  heard : console.session.cancelled = console.requested
  outlook : console.session.outlook job.plan (flagOf job.limit) =
    (Pass.run job.plan (flagOf job.limit) job.material.source).events

theorem Abreast.finds (abreast : console.Abreast job) (stands : console.Stands job rows)
    (counted : console.session.worker.Counted console.session.sent) :
    console.session.worker.Finds (flagOf job.limit) console.session.cancelled := by
  rintro task reader state works -
  rw [works] at counted
  obtain ⟨others, sent, count⟩ := counted
  rw [Session.sent, abreast.drained, List.append_nil] at sent
  rw [abreast.heard, stands.shows.requested, flagOf_eq]
  rcases stands.standing with ⟨received, -⟩ | ⟨outcome, received, -⟩
  · have length := congrArg List.length (received.symm.trans sent)
    rw [List.length_map, List.length_map, count] at length
    rw [length]
    rfl
  · have last : Event.finished outcome ∈ others.map Event.row := by simp [← sent, received]
    simp at last

theorem Abreast.work (abreast : console.Abreast job)
    (finds : console.session.worker.Finds (flagOf job.limit) console.session.cancelled) :
    (console.session.work job.plan).channel = console.session.worker.event?.toList ∧
      (console.session.work job.plan).cancelled = console.session.cancelled ∧
      (console.session.work job.plan).outlook job.plan (flagOf job.limit) =
        (Pass.run job.plan (flagOf job.limit) job.material.source).events := by
  have free : console.session.isBlocked job.plan = false := by
    simp [Session.isBlocked, abreast.drained, Pass.Plan.capacity]
  have outlook := abreast.outlook
  rw [Session.outlook, Session.sent, abreast.drained, List.append_nil, Pass.Worker.toCome_step finds] at outlook
  simp only [Session.work, free, Bool.false_eq_true, if_false, Session.outlook, Session.sent, abreast.drained,
    List.nil_append, List.append_assoc]
  exact ⟨trivial, trivial, outlook⟩

theorem channel_receive (session : Session) : session.receive.channel = session.channel.tail := by
  unfold Session.receive
  split
  next empty => rw [empty, List.tail_nil]
  next full => rw [full, List.tail_cons]

theorem cancelled_receive (session : Session) : session.receive.cancelled = session.cancelled := by
  unfold Session.receive
  split <;> rfl

/-- Behind one event of the worker nothing is left in the channel, whether the command still goes
on or has ended before. -/
theorem Abreast.receive (stands : console.Stands job rows) (gives : console.session.Gives job.plan others ending)
    (sent : (console.session.work job.plan).channel = console.session.worker.event?.toList) :
    ((console.act job .work).receive job).session.channel = [] := by
  rw [session_receive]
  split
  · rw [channel_receive]
    change (console.session.work job.plan).channel.tail = []
    rw [sent]
    cases console.session.worker.event? <;> rfl
  next refused =>
    rcases stands.standing with ⟨-, going⟩ | ⟨outcome, received, -⟩
    · exact absurd (Option.isNone_iff_eq_none.mpr going) refused
    · have isOver := Session.reply_eq_ended_iff.mp (gives.final outcome (by simp [received]))
      change (console.session.work job.plan).channel = []
      rw [sent, isOver.gone]
      rfl

theorem Abreast.round (abreast : console.Abreast job) (stands : console.Stands job rows)
    (counted : console.session.worker.Counted console.session.sent)
    (gives : console.session.Gives job.plan others ending) :
    (console.play job [.work, .receive, .cancel]).Abreast job := by
  obtain ⟨sent, heard, outlook⟩ := abreast.work (abreast.finds stands counted)
  let worked : Console := console.act job .work
  have idle : .work ∉ worked.turns job [.receive, .cancel] := fun turn => absurd (mem_of_mem_turns turn) (by decide)
  have drained : (worked.receive job).session.channel = [] := Abreast.receive stands gives sent
  have kept : (worked.receive job).session.cancelled = console.requested := by
    rw [← abreast.heard, ← heard, session_receive]
    split
    · exact cancelled_receive _
    · rfl
  have same : (console.play job [.work, .receive, .cancel]).session =
      worked.session.play job.plan (worked.turns job [.receive, .cancel]) := session_play worked [.receive, .cancel]
  have final : (console.play job [.work, .receive, .cancel]).session.outlook job.plan (flagOf job.limit) =
      (Pass.run job.plan (flagOf job.limit) job.material.source).events := by
    rw [same, Session.outlook_idle_play _ idle]
    exact outlook
  change Abreast job ((worked.receive job).act job .cancel)
  change ((worked.receive job).act job .cancel).session.outlook _ _ = _ at final
  by_cases asked : (worked.receive job).requested = true
  · rw [Console.act, if_pos asked] at final ⊢
    exact ⟨drained, asked.symm, final⟩
  · rw [Console.act, if_neg asked] at final ⊢
    -- It did not ask before either.
    have before : ¬ console.requested = true := fun earlier => asked (@requested_receive job worked earlier)
    rw [Bool.not_eq_true] at asked before
    exact ⟨drained, (kept.trans before).trans asked.symm, final⟩

theorem abreast_prompt (job : Job) (rounds : Nat) : ((start job).play job (prompt rounds)).Abreast job := by
  induction rounds with
  | zero => exact ⟨rfl, rfl, Session.outlook_start _ _ _⟩
  | succ rounds ih =>
      obtain ⟨rows, stands⟩ := exists_stands job (prompt rounds)
      have session := session_eq job (prompt rounds)
      obtain ⟨others, ending, gives, -⟩ := exists_gives job (prompt rounds)
      have counted := @Session.counted_play job.plan job.material.source ((start job).turns job (prompt rounds))
      rw [prompt_succ, play_append]
      exact ih.round stands (session ▸ counted) gives

/-- A layout told as a whole is one of these in which both parties wait for each other. -/
theorem exists_perform (job : Job) :
    ∃ schedule, ((start job).play job schedule).response = some job.perform := by
  let rounds := (start job).session.effort + 2
  have fair : Session.Fair rounds (prompt rounds) := Session.fair_replicate (by decide) rounds
  obtain ⟨answer, answered⟩ := exists_answer_of_fair fair
  refine ⟨prompt rounds, answered.trans (congrArg some ?_)⟩
  obtain ⟨rows, outcome, -, received, isOver, rfl⟩ := exists_received answered
  have all := isOver.received job.plan (flagOf job.limit)
  rw [received, (abreast_prompt job rounds).outlook] at all
  obtain ⟨rfl, rfl⟩ := Pass.eq_of_events_eq all
  rfl

end Console

end CommitLanes.Command
