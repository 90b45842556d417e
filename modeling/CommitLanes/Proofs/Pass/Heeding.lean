import CommitLanes.Proofs.Pass.Outlook

/-! A pass looks at its flag behind every row.

So a pass that went on to an end of its own found the flag unset behind its last row, with all its
rows counted.
-/

set_option autoImplicit false

namespace CommitLanes.Pass

/-- Behind a row the flag ends the pass or was unset. -/
structure Step.Heeds (flag : Flag) (sent : Nat) (step : Step) : Prop where
  count : step.state.rows = sent + step.row.toList.length
  unset : step.row ≠ none → (∃ count, step.outcome = some (.cancelled count)) ∨ flag step.state.moment = false

def Run.Heeds (flag : Flag) (sent : Nat) (run : Run) : Prop :=
  run.rows ≠ [] → (∃ count, run.outcome = .cancelled count) ∨
    ∃ moment : Moment, moment.rows = sent + run.rows.length ∧ flag moment = false

variable {plan : Plan} {flag : Flag} {sent : Nat}

theorem Step.Heeds.after {step : Step} {rest : State → Run} (heeds : step.Heeds flag sent)
    (later : ∀ state, (rest state).Heeds flag state.rows) : (Run.after step rest).Heeds flag sent := by
  unfold Run.after
  cases ends : step.outcome with
  | some outcome =>
      intro sends
      dsimp only at sends ⊢
      rcases heeds.unset (by simpa using sends) with ⟨count, called⟩ | unset
      · exact .inl ⟨count, Option.some.inj (ends.symm.trans called)⟩
      · exact .inr ⟨step.state.moment, heeds.count, unset⟩
  | none =>
      intro sends
      dsimp only at sends ⊢
      by_cases last : (rest step.state).rows = []
      · -- No row comes behind this one.
        rw [last, List.append_nil] at sends ⊢
        rcases heeds.unset (by simpa using sends) with ⟨count, called⟩ | unset
        · cases ends.symm.trans called
        · exact .inr ⟨step.state.moment, heeds.count, unset⟩
      · refine (later step.state last).imp_right fun ⟨moment, count, unset⟩ => ⟨moment, ?_, unset⟩
        rw [count, heeds.count, List.length_append, Nat.add_assoc]

section Course

variable (state : State)

theorem heeds_deliver (row : Layout.Row) : (deliver flag state row).Heeds flag state.rows := by
  refine ⟨rfl, fun _ => ?_⟩
  by_cases set : flag { state with rows := state.rows + 1 }.moment = true
  · exact .inl ⟨state.rows + 1, if_pos set⟩
  · exact .inr (Bool.not_eq_true _ ▸ set)

theorem heeds_judgeRow (filter : Filter) (row : Layout.Row) :
    (judgeRow flag state filter row).Heeds flag state.rows := by
  unfold judgeRow
  cases filter.judge row.node with
  | accept => exact heeds_deliver { state with judged := state.judged + 1 } row
  | reject => exact ⟨rfl, fun sends => absurd rfl sends⟩
  | crash said => exact ⟨rfl, fun sends => absurd rfl sends⟩

theorem heeds_stepCommit (commit : Commit) : (stepCommit plan flag state commit).Heeds flag state.rows := by
  let placed := { state with records := state.records + 1 }.place plan.refs commit
  rw [stepCommit_eq]
  cases plan.filter with
  | none => exact heeds_deliver placed.2 placed.1
  | some filter => exact heeds_judgeRow placed.2 filter placed.1

theorem heeds_runCommits (items : List (Except Log.Fault Commit)) :
    (runCommits plan flag items state).Heeds flag state.rows := by
  induction items generalizing state with
  | nil =>
      rw [runCommits_eq]
      split <;> exact fun sends => absurd rfl sends
  | cons item rest ih =>
      rw [runCommits_eq]
      split
      · exact fun sends => absurd rfl sends
      · cases item with
        | error fault => exact fun sends => absurd rfl sends
        | ok commit => exact (heeds_stepCommit state commit).after ih

theorem heeds_runPlaceholders (items : List (Except Log.Fault Commit)) (later : List Commit) :
    (runPlaceholders plan flag (runCommits plan flag items) later state).Heeds flag state.rows := by
  induction later generalizing state with
  | nil => exact heeds_runCommits state items
  | cons commit later ih => exact (heeds_deliver (state.place plan.refs commit).2 _).after ih

end Course

theorem heeds_run (plan : Plan) (flag : Flag) (source : Log.Source) : (run plan flag source).Heeds flag 0 := by
  unfold run
  split
  · exact fun sends => absurd rfl sends
  · exact heeds_runPlaceholders (.start plan.settings) _ _

end CommitLanes.Pass
