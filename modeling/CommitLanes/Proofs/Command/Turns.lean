import CommitLanes.Command.Console
import CommitLanes.Proofs.Pass.Progress

/-! The session inside a console.

A console has turns of its own: it lets its session go once it has its answer, and calls it off
only when it has asked for that. What is left of a schedule are the turns of a session, and a fair
schedule leaves fair turns as long as the command goes on.
-/

set_option autoImplicit false

namespace CommitLanes.Command.Console

open Pass (Act Event Session)

variable {job : Job} {console : Console} {schedule : List Act} {answer : Response}

def Grants (console : Console) : Act → Bool
  | .work => true
  | .receive => console.response.isNone
  | .cancel => console.requested

def turns (job : Job) (console : Console) : List Act → List Act
  | [] => []
  | act :: rest => (if console.Grants act then [act] else []) ++ turns job (console.act job act) rest

theorem play_cons (console : Console) (act : Act) (schedule : List Act) :
    console.play job (act :: schedule) = (console.act job act).play job schedule :=
  rfl

theorem play_append (console : Console) (schedule others : List Act) :
    console.play job (schedule ++ others) = (console.play job schedule).play job others :=
  List.foldl_append

theorem turns_append (console : Console) (schedule others : List Act) :
    console.turns job (schedule ++ others) =
      console.turns job schedule ++ (console.play job schedule).turns job others := by
  induction schedule generalizing console with
  | nil => rfl
  | cons act rest ih => rw [List.cons_append, turns, turns, ih, List.append_assoc, play_cons]

theorem session_handle (console : Console) (event : Event) :
    (console.handle job event).session = console.session := by
  rcases event with row | (_ | _ | _)
  · rw [handle, print]
    split <;> rfl
  all_goals rfl

theorem session_receive (console : Console) :
    (console.receive job).session = if console.Grants .receive then console.session.receive else console.session := by
  unfold receive Grants
  cases console.response with
  | some answer => rfl
  | none =>
      unfold Session.reply Session.receive
      cases channel : console.session.channel with
      | cons event rest => simp [session_handle]
      | nil => cases console.session.worker <;> rfl

theorem session_act (console : Console) (act : Act) :
    (console.act job act).session =
      console.session.play job.plan (if console.Grants act then [act] else []) := by
  cases act with
  | work => rfl
  | receive =>
      rw [Console.act, session_receive]
      split <;> rfl
  | cancel =>
      by_cases asked : console.requested = true
      · simp only [Console.act, Grants, asked, if_true]
        rfl
      · simp only [Console.act, Grants, asked, if_false, Bool.false_eq_true]
        rfl

theorem session_play (console : Console) (schedule : List Act) :
    (console.play job schedule).session = console.session.play job.plan (console.turns job schedule) := by
  induction schedule generalizing console with
  | nil => rfl
  | cons act rest ih => rw [play_cons, ih, session_act, turns, Session.play_append]

theorem response_act (ended : console.response = some answer) (act : Act) :
    (console.act job act).response = some answer := by
  cases act with
  | work => exact ended
  | receive => rw [Console.act, receive, if_pos (Option.isSome_of_mem ended), ended]
  | cancel =>
      rw [Console.act]
      split <;> exact ended

theorem response_play (ended : console.response = some answer) (schedule : List Act) :
    (console.play job schedule).response = some answer := by
  induction schedule generalizing console with
  | nil => exact ended
  | cons act rest ih => exact ih (response_act ended act)

theorem requested_receive (asked : console.requested = true) : (console.receive job).requested = true := by
  unfold receive
  split
  · exact asked
  split
  next event _ =>
    rcases event with row | (_ | _ | _)
    · rw [handle, print]
      split
      · rfl
      · exact asked
    all_goals exact asked
  · exact asked
  · exact asked

theorem requested_act (asked : console.requested = true) (act : Act) : (console.act job act).requested = true := by
  cases act with
  | work => exact asked
  | receive => exact requested_receive asked
  | cancel =>
      rw [Console.act, if_pos asked]
      exact asked

theorem requested_play (asked : console.requested = true) (schedule : List Act) :
    (console.play job schedule).requested = true := by
  induction schedule generalizing console with
  | nil => exact asked
  | cons act rest ih => exact ih (requested_act asked act)

theorem mem_of_mem_turns {act : Act} (turn : act ∈ console.turns job schedule) : act ∈ schedule := by
  induction schedule generalizing console with
  | nil => cases turn
  | cons first rest ih =>
      rcases List.mem_append.mp turn with here | later
      · split at here
        · exact List.mem_singleton.mp here ▸ List.mem_cons_self
        · cases here
      · exact List.mem_cons_of_mem _ (ih later)

/-- The session is called off only after the console has asked for it. -/
theorem requested_of_cancel (called : .cancel ∈ console.turns job schedule) :
    (console.play job schedule).requested = true := by
  induction schedule generalizing console with
  | nil => cases called
  | cons act rest ih =>
      rcases List.mem_append.mp called with here | later
      · split at here
        next granted =>
          obtain rfl := List.mem_singleton.mp here
          exact requested_play (requested_act granted .cancel) rest
        · cases here
      · exact ih later

theorem going_of_play (going : (console.play job schedule).response = none) : console.response = none := by
  cases ended : console.response with
  | none => rfl
  | some answer =>
      rw [response_play ended] at going
      cases going

theorem mem_turns (going : (console.play job schedule).response = none) {act : Act} (turn : act ∈ schedule)
    (moves : act ≠ .cancel) : act ∈ console.turns job schedule := by
  induction schedule generalizing console with
  | nil => cases turn
  | cons first rest ih =>
      rw [turns, List.mem_append]
      rcases List.mem_cons.mp turn with rfl | later
      · refine .inl ?_
        have granted : console.Grants act = true := by
          cases act with
          | work => rfl
          | cancel => exact absurd rfl moves
          | receive => exact Option.isNone_iff_eq_none.mpr (@going_of_play job console (.receive :: rest) going)
        rw [if_pos granted]
        exact List.mem_singleton_self act
      · exact .inr (ih going later)

theorem fair_turns (going : (console.play job schedule).response = none) {rounds : Nat}
    (fair : Session.Fair rounds schedule) : Session.Fair rounds (console.turns job schedule) := by
  obtain ⟨parts, rfl, enough, each⟩ := fair
  suffices found : ∃ others : List (List Act), others.flatten = console.turns job parts.flatten ∧
      others.length = parts.length ∧ ∀ round ∈ others, .work ∈ round ∧ .receive ∈ round by
    obtain ⟨others, same, length, turns⟩ := found
    exact ⟨others, same, length ▸ enough, turns⟩
  clear enough
  induction parts generalizing console with
  | nil => exact ⟨[], rfl, rfl, nofun⟩
  | cons round rest ih =>
      rw [List.flatten_cons, play_append] at going
      have first := going_of_play going
      obtain ⟨others, same, length, turns⟩ := ih going fun later member => each later (List.mem_cons_of_mem _ member)
      obtain ⟨work, receive⟩ := each round List.mem_cons_self
      refine ⟨console.turns job round :: others, ?_, by rw [List.length_cons, length, List.length_cons], ?_⟩
      · rw [List.flatten_cons, List.flatten_cons, turns_append, same]
      · exact List.forall_mem_cons.mpr
          ⟨⟨mem_turns first work (by decide), mem_turns first receive (by decide)⟩, turns⟩

end CommitLanes.Command.Console
