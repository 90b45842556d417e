import CommitLanes.Proofs.Pass.Outlook

/-! Every pass comes to its end.

Each turn that changes anything but the flag uses up some of a finite effort, and as long as
the session is not over one of the two parties can move. How much the channel holds makes no
difference, since it holds at least one event.
-/

set_option autoImplicit false

namespace CommitLanes.Pass

/-- More than the steps that are still possible, where an event in the channel takes one more.
A commit takes five steps and at least one byte of the log. -/
def Task.effort (reader : Log.Reader) : Task → Nat
  | proceed later => 6 * reader.source.size + 4 * later.length + 4
  | take => 6 * reader.source.size + 3
  | ask _ _ => 6 * reader.source.size + 8
  | deliver _ later => 6 * reader.source.size + 4 * later.length + 7
  | look later => 6 * reader.source.size + 4 * later.length + 5

namespace Worker

def effort : Worker → Nat
  | working task reader _ => task.effort reader
  | reporting _ => 2
  | gone => 0

theorem two_lt_effort (task : Task) (reader : Log.Reader) : 2 < task.effort reader := by
  cases task <;> simp only [Task.effort] <;> omega

variable {plan : Plan} {cancelled : Bool} {worker : Worker}

theorem effort_heed {onward : Task} {reader : Log.Reader} {bound : Nat} (state : State)
    (less : onward.effort reader < bound) : (heed cancelled onward reader state).effort < bound := by
  unfold heed
  split
  · exact Nat.lt_trans (two_lt_effort onward reader) less
  · exact less

theorem effort_afterPlacing (plan : Plan) (row : Layout.Row) (reader : Log.Reader) :
    (Task.afterPlacing plan row).effort reader ≤ 6 * reader.source.size + 8 := by
  unfold Task.afterPlacing
  split <;> simp [Task.effort]

theorem effort_take (plan : Plan) (cancelled : Bool) (reader : Log.Reader) (state : State) :
    ((working .take reader state).step plan cancelled).effort < (working .take reader state).effort := by
  rw [step]
  rcases reply : reader.next with ⟨(_ | fault | commit), later⟩
  · exact two_lt_effort .take reader
  · exact two_lt_effort .take reader
  · have less : reader.next.2.source.size < reader.source.size := Log.Reader.size_next (by rw [reply])
    simp only [reply] at less
    refine Nat.lt_of_le_of_lt (effort_afterPlacing plan _ later) ?_
    simp only [effort, Task.effort]
    omega

theorem effort_ask (plan : Plan) (cancelled : Bool) (filter : Filter) (row : Layout.Row) (reader : Log.Reader)
    (state : State) :
    ((working (.ask filter row) reader state).step plan cancelled).effort <
      (working (.ask filter row) reader state).effort := by
  rw [step]
  cases filter.judge row.node <;> simp [effort, Task.effort]

/-- A step uses up effort, and one that sends an event leaves what the event takes. -/
theorem effort_step (here : worker ≠ .gone) :
    (worker.step plan cancelled).effort + worker.event?.toList.length < worker.effort := by
  cases worker with
  | gone => exact absurd rfl here
  | reporting outcome => exact Nat.lt_succ_self 1
  | working task reader state =>
      cases task with
      | proceed later =>
          cases later with
          | nil => exact effort_heed state (Nat.lt_succ_self _)
          | cons commit later =>
              simp only [step, event?, effort, Task.effort, Option.toList_none, List.length_nil, List.length_cons]
              omega
      | take => exact effort_take plan cancelled reader state
      | ask filter row => exact effort_ask plan cancelled filter row reader state
      | deliver row later =>
          simp only [step, event?, effort, Task.effort, Option.toList_some, List.length_singleton]
          omega
      | look later => exact effort_heed state (Nat.lt_succ_self _)

end Worker

namespace Session

variable {plan : Plan} {session : Session}

def effort (session : Session) : Nat :=
  session.worker.effort + session.channel.length

theorem effort_receive_lt (full : session.channel ≠ []) : session.receive.effort < session.effort := by
  unfold receive
  split
  next empty => exact absurd empty full
  next event rest found => simp [effort, found]

theorem effort_work_lt (here : session.worker ≠ .gone) (free : session.isBlocked plan = false) :
    (session.work plan).effort < session.effort := by
  have less :
      (session.worker.step plan session.cancelled).effort + session.worker.event?.toList.length <
        session.worker.effort :=
    Worker.effort_step here
  simp only [work, free, Bool.false_eq_true, if_false, effort, List.length_append]
  omega

/-- No turn adds to the effort, whoever has it. -/
theorem effort_act_le (session : Session) (act : Act) : (session.act plan act).effort ≤ session.effort := by
  cases act with
  | work =>
      by_cases blocked : session.isBlocked plan = true
      · simp [Session.act, work, blocked]
      · by_cases gone : session.worker = .gone
        · simp [Session.act, work, blocked, effort, gone, Worker.step, Worker.event?]
        · exact Nat.le_of_lt (effort_work_lt gone (Bool.eq_false_iff.mpr blocked))
  | receive =>
      by_cases empty : session.channel = []
      · simp [Session.act, receive, empty]
      · exact Nat.le_of_lt (effort_receive_lt empty)
  | cancel => exact Nat.le_refl _

theorem effort_play_le (session : Session) (schedule : List Act) :
    (session.play plan schedule).effort ≤ session.effort := by
  induction schedule generalizing session with
  | nil => exact Nat.le_refl _
  | cons act rest ih => exact Nat.le_trans (ih _) (effort_act_le session act)

theorem effort_lt_of_receive {schedule : List Act} (full : session.channel ≠ []) (turn : .receive ∈ schedule) :
    (session.play plan schedule).effort < session.effort := by
  induction schedule generalizing session with
  | nil => cases turn
  | cons act rest ih =>
      rw [play_cons]
      cases act with
      | receive => exact Nat.lt_of_le_of_lt (effort_play_le _ rest) (effort_receive_lt full)
      | work =>
          have still : (session.work plan).channel ≠ [] := by
            unfold work
            split
            · exact full
            · simp [full]
          exact Nat.lt_of_lt_of_le (ih still (by simpa using turn)) (effort_act_le session .work)
      | cancel => exact @ih session.cancel full (by simpa using turn)

theorem effort_lt_of_work {schedule : List Act} (empty : session.channel = []) (here : session.worker ≠ .gone)
    (turn : .work ∈ schedule) : (session.play plan schedule).effort < session.effort := by
  induction schedule generalizing session with
  | nil => cases turn
  | cons act rest ih =>
      rw [play_cons]
      cases act with
      | work =>
          have free : session.isBlocked plan = false := by
            simp [isBlocked, empty, Plan.capacity]
          exact Nat.lt_of_le_of_lt (effort_play_le _ rest) (effort_work_lt here free)
      | receive =>
          have same : session.receive = session := by
            simp [receive, empty]
          rw [Session.act, same]
          exact ih empty here (by simpa using turn)
      | cancel => exact @ih session.cancel empty here (by simpa using turn)

theorem effort_round (plan : Plan) {round : List Act} (turns : .work ∈ round ∧ .receive ∈ round) :
    session.IsOver ∨ (session.play plan round).effort < session.effort := by
  by_cases empty : session.channel = []
  · by_cases gone : session.worker = .gone
    · exact .inl ⟨gone, empty⟩
    · exact .inr (effort_lt_of_work empty gone turns.1)
  · exact .inr (effort_lt_of_receive empty turns.2)

/-- A schedule in which both parties get a turn at least so many times after one another. -/
def Fair (rounds : Nat) (schedule : List Act) : Prop :=
  ∃ turns : List (List Act), turns.flatten = schedule ∧ rounds ≤ turns.length ∧
    ∀ round ∈ turns, .work ∈ round ∧ .receive ∈ round

theorem fair_replicate {round : List Act} (turns : .work ∈ round ∧ .receive ∈ round) (rounds : Nat) :
    Fair rounds (List.replicate rounds round).flatten :=
  ⟨List.replicate rounds round, rfl, Nat.le_of_eq List.length_replicate.symm,
    fun _ member => List.eq_of_mem_replicate member ▸ turns⟩

theorem isOver_of_fair {schedule : List Act} (fair : Fair (session.effort + 1) schedule) :
    (session.play plan schedule).IsOver := by
  obtain ⟨turns, rfl, enough, each⟩ := fair
  -- Each round uses up effort or finds the session over, and there are more rounds than effort.
  induction turns generalizing session with
  | nil => cases enough
  | cons round later ih =>
      rw [List.flatten_cons, play_append]
      rcases effort_round plan (each round List.mem_cons_self) with ended | less
      · exact ((ended.play plan round).1.play plan later.flatten).1
      · refine ih ?_ fun next member => each next (List.mem_cons_of_mem _ member)
        rw [List.length_cons] at enough
        omega

end Session

end CommitLanes.Pass
