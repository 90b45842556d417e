import CommitLanes.Proofs.Pass.Outlook
import CommitLanes.Proofs.Pass.Pipeline

/-! Where a worker stands in its log.

The commits it has taken and those that the reader will still give are the whole log, whoever
calls the pass off and when. All of them went past the filter and were answered, but the one
about which the filter is to be asked next.
-/

set_option autoImplicit false

namespace CommitLanes.Pass

/-- What is known of the commits taken so far when a worker comes to a task. -/
def Task.StandsBehind (plan : Plan) (taken : List Commit) : Task → Prop
  | ask filter row =>
      plan.filter = some filter ∧
        ∃ front commit, taken = front ++ [commit] ∧ row.node = plan.attach commit ∧
          ∀ earlier ∈ front, plan.Answers (plan.attach earlier)
  | _ => ∀ commit ∈ taken, plan.Answers (plan.attach commit)

def Worker.StandsIn (plan : Plan) (items : List (Except Log.Fault Commit)) (deeds : List Deed) : Worker → Prop
  | working task reader state =>
      ∃ taken : List Commit, items = taken.map .ok ++ reader.items ∧
        taken.length = state.records ∧ taken.length = deeds.count .take ∧ task.StandsBehind plan taken
  | _ => True

namespace Worker

variable {plan : Plan} {items : List (Except Log.Fault Commit)} {deeds : List Deed} {cancelled : Bool}
  {worker : Worker}

theorem standsIn_start (plan : Plan) (source : Log.Source) :
    (start plan source).StandsIn plan (plan.items source) [] := by
  unfold start
  cases known : plan.settings.decoder with
  | error fault => trivial
  | ok decoder => exact ⟨[], by simp only [Plan.items, known]; rfl, rfl, rfl, nofun⟩

theorem standsIn_heed {onward : Task} {reader : Log.Reader} {state : State}
    (stands : (working onward reader state).StandsIn plan items deeds) :
    (heed cancelled onward reader state).StandsIn plan items deeds := by
  unfold heed
  split
  · trivial
  · exact stands

theorem standsBehind_afterPlacing {taken : List Commit} {row : Layout.Row} (commit : Commit)
    (same : row.node = plan.attach commit) (answered : ∀ earlier ∈ taken, plan.Answers (plan.attach earlier)) :
    (Task.afterPlacing plan row).StandsBehind plan (taken ++ [commit]) := by
  unfold Task.afterPlacing
  cases filtered : plan.filter with
  | none => exact fun earlier _ => Plan.answers_of_unfiltered filtered _
  | some filter => exact ⟨filtered, taken, commit, rfl, same, answered⟩

theorem standsIn_take {reader : Log.Reader} {state : State}
    (stands : (working .take reader state).StandsIn plan items deeds) :
    ((working .take reader state).step plan cancelled).StandsIn plan items (deeds ++ [.take]) := by
  obtain ⟨taken, split, records, takes, answered⟩ := stands
  -- What the step takes is the first item that the reader had still to give.
  rw [Log.Reader.items_eq] at split
  rw [step]
  revert split
  rcases reader.next with ⟨(_ | fault | commit), later⟩
  · exact fun _ => trivial
  · exact fun _ => trivial
  · intro split
    refine ⟨taken ++ [commit], by simpa using split, ?_, ?_, ?_⟩
    · simpa using records
    · simpa using takes
    · exact standsBehind_afterPlacing commit (Layout.node_push _ _) answered

theorem standsIn_ask {filter : Filter} {row : Layout.Row} {reader : Log.Reader} {state : State}
    (stands : (working (.ask filter row) reader state).StandsIn plan items deeds) :
    ((working (.ask filter row) reader state).step plan cancelled).StandsIn plan items (deeds ++ [.ask]) := by
  obtain ⟨taken, split, records, takes, filtered, front, commit, rfl, same, answered⟩ := stands
  -- If the pass goes on, the commit in question was answered like those before it.
  have goes : (∀ said, filter.judge row.node ≠ .crash said) →
      ∀ earlier ∈ front ++ [commit], plan.Answers (plan.attach earlier) := by
    intro calm earlier member
    rcases List.mem_append.mp member with before | last
    · exact answered earlier before
    · rw [List.mem_singleton.mp last, ← same]
      intro other found
      rwa [← Option.some.inj (filtered.symm.trans found)]
  have counted : (front ++ [commit]).length = (deeds ++ [Deed.ask]).count .take := by simpa using takes
  simp only [step]
  cases verdict : filter.judge row.node with
  | accept => exact ⟨_, split, records, counted, goes (by simp [verdict])⟩
  | reject => exact ⟨_, split, records, counted, goes (by simp [verdict])⟩
  | crash said => trivial

theorem standsIn_step (stands : worker.StandsIn plan items deeds) :
    (worker.step plan cancelled).StandsIn plan items (deeds ++ worker.deed?.toList) := by
  cases worker with
  | gone => trivial
  | reporting outcome => trivial
  | working task reader state =>
      cases task with
      | take => exact standsIn_take stands
      | ask filter row => exact standsIn_ask stands
      | proceed later =>
          obtain ⟨taken, split, records, takes, answered⟩ := stands
          cases later with
          | nil => exact standsIn_heed ⟨taken, split, records, by simpa [deed?, Task.deed] using takes, answered⟩
          | cons commit later => exact ⟨taken, split, records, by simpa [deed?, Task.deed] using takes, answered⟩
      | deliver row later =>
          obtain ⟨taken, split, records, takes, answered⟩ := stands
          exact ⟨taken, split, records, by simpa [deed?, Task.deed] using takes, answered⟩
      | look later =>
          obtain ⟨taken, split, records, takes, answered⟩ := stands
          exact standsIn_heed ⟨taken, split, records, by simpa [deed?, Task.deed] using takes, answered⟩

end Worker

namespace Session

variable {plan : Plan} {source : Log.Source} {schedule : List Act}

theorem standsIn_play :
    ((start plan source).play plan schedule).worker.StandsIn plan (plan.items source)
      ((start plan source).play plan schedule).deeds :=
  play_induction plan _ _ (motive := fun _ worker _ deeds => worker.StandsIn plan (plan.items source) deeds)
    (fun _ _ _ _ _ => Worker.standsIn_step) (fun _ _ _ _ _ stands => stands) (Worker.standsIn_start plan source)

theorem exists_front_of_ask {filter : Filter} {row : Layout.Row} {reader : Log.Reader} {state : State}
    (asks : ((start plan source).play plan schedule).worker = .working (.ask filter row) reader state) :
    ∃ (front : List Commit) (commit : Commit) (rest : List (Except Log.Fault Commit)),
      plan.items source = front.map .ok ++ .ok commit :: rest ∧ row.node = plan.attach commit ∧
      plan.filter = some filter ∧ (∀ earlier ∈ front, plan.Answers (plan.attach earlier)) ∧
      state.records = front.length + 1 ∧
      ((start plan source).play plan schedule).deeds.count .take = front.length + 1 := by
  have stands := @standsIn_play plan source schedule
  rw [asks] at stands
  obtain ⟨_, split, records, takes, filtered, front, commit, rfl, same, answered⟩ := stands
  rw [List.length_append, List.length_singleton] at records takes
  exact ⟨front, commit, reader.items, by simpa using split, same, filtered, answered, records.symm, takes.symm⟩

end Session

theorem exists_decoder_of_items {plan : Plan} {source : Log.Source} (given : plan.items source ≠ []) :
    ∃ decoder, plan.settings.decoder = .ok decoder := by
  unfold Plan.items at given
  cases known : plan.settings.decoder with
  | error fault => simp [known] at given
  | ok decoder => exact ⟨decoder, rfl⟩

end CommitLanes.Pass
