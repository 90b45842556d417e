import CommitLanes.Pass.Handle
import CommitLanes.Proofs.Layout.Settled
import Mathlib.Data.List.Induction

/-! A pass as a pipeline over whole lists.

A pass goes through its log one commit at a time and keeps count of what it meets. As long as
the flag is unset and the filter answers, it comes to the same as laying out all commits at
once, the placeholders first, and keeping back the rows that the filter rejects afterwards.
-/

set_option autoImplicit false

namespace CommitLanes

namespace Pass

def Plan.attach (plan : Plan) (commit : Commit) : Commit :=
  commit.withRefs (plan.refs.refsFor commit.id)

def Plan.shows (plan : Plan) (node : Commit) : Bool :=
  match plan.filter with
  | none => true
  | some filter => filter.judge node = .accept

/-- Whether a filter, if there is one, does not break down over a commit. -/
def Plan.Answers (plan : Plan) (node : Commit) : Prop :=
  ∀ filter ∈ plan.filter, ∀ said, filter.judge node ≠ .crash said

theorem Plan.answers_of_unfiltered {plan : Plan} (unfiltered : plan.filter = none) (node : Commit) :
    plan.Answers node := by
  intro filter found
  rw [unfiltered] at found
  cases found

def commitsOf : List (Except Log.Fault Commit) → List Commit
  | .ok commit :: rest => commit :: commitsOf rest
  | _ => []

def faultOf : List (Except Log.Fault Commit) → Option Log.Fault
  | [] => none
  | .error fault :: _ => some fault
  | .ok _ :: rest => faultOf rest

def laidOut (plan : Plan) (commits : List Commit) : List Layout.Row × Layout :=
  (Layout.start plan.settings.seenWindow).pushAll ((placeholders plan ++ commits).map plan.attach)

/-- The rows of all placeholders, and those of the commits that the filter accepts. -/
def shownRows (plan : Plan) (commits : List Commit) : List Layout.Row :=
  let rows := (laidOut plan commits).1
  rows.take (placeholders plan).length ++
    (rows.drop (placeholders plan).length).filter fun row => plan.shows row.node

def summaryOf (plan : Plan) (commits : List Commit) : Summary where
  records := commits.length
  rows := (shownRows plan commits).length
  refsSeen := ((placeholders plan ++ commits).flatMap fun commit => plan.refs.refsFor commit.id).eraseDups
  dangling := (laidOut plan commits).2.finish.1
  anomalies := (laidOut plan commits).2.anomalies.length

/-- How a pass ends that nothing ends but its log. -/
def endingOf (plan : Plan) (items : List (Except Log.Fault Commit)) : Outcome :=
  match faultOf items with
  | none => .completed (summaryOf plan (commitsOf items))
  | some fault => .failed (.log fault)

def Plan.items (plan : Plan) (source : Log.Source) : List (Except Log.Fault Commit) :=
  match plan.settings.decoder with
  | .error _ => []
  | .ok decoder => (Log.Reader.start source decoder).items

section Log

theorem exists_split_commitsOf (items : List (Except Log.Fault Commit)) :
    ∃ tail, items = (commitsOf items).map .ok ++ tail ∧
      (tail = [] ∧ faultOf items = none ∨
        ∃ fault later, tail = .error fault :: later ∧ faultOf items = some fault) := by
  induction items with
  | nil => exact ⟨[], rfl, .inl ⟨rfl, rfl⟩⟩
  | cons item rest ih =>
      cases item with
      | error fault => exact ⟨_, rfl, .inr ⟨fault, rest, rfl, rfl⟩⟩
      | ok commit =>
          obtain ⟨tail, split, ending⟩ := ih
          exact ⟨tail, congrArg _ split, ending⟩

end Log

section Refs

theorem meetRefs_append (seen refs others : List Ref) :
    State.meetRefs seen (refs ++ others) = State.meetRefs (State.meetRefs seen refs) others :=
  List.foldl_append

theorem meetRefs_nil (refs : List Ref) : State.meetRefs [] refs = refs.eraseDups := by
  -- From the back, since that is where a ref is added.
  induction refs using List.reverseRecOn with
  | nil => rfl
  | append_singleton refs ref ih =>
      rw [meetRefs_append, ih, List.eraseDups_append]
      by_cases known : ref ∈ refs
      · simp [State.meetRefs, List.removeAll, known]
      · simp [State.meetRefs, List.removeAll, known, List.eraseDups_cons]

end Refs

namespace State

def behindPlaceholder (plan : Plan) (state : State) (commit : Commit) : State where
  layout := (state.layout.push (plan.attach commit)).2
  records := state.records
  rows := state.rows + 1
  judged := state.judged
  refsSeen := meetRefs state.refsSeen (plan.refs.refsFor commit.id)

def behindCommit (plan : Plan) (state : State) (commit : Commit) : State where
  layout := (state.layout.push (plan.attach commit)).2
  records := state.records + 1
  rows := state.rows + if plan.shows (plan.attach commit) then 1 else 0
  judged := state.judged + if plan.filter.isSome then 1 else 0
  refsSeen := meetRefs state.refsSeen (plan.refs.refsFor commit.id)

variable {plan : Plan}

theorem foldl_behindPlaceholder (state : State) (commits : List Commit) :
    commits.foldl (behindPlaceholder plan) state =
      { layout := (state.layout.pushAll (commits.map plan.attach)).2
        records := state.records
        rows := state.rows + commits.length
        judged := state.judged
        refsSeen := meetRefs state.refsSeen (commits.flatMap fun commit => plan.refs.refsFor commit.id) } := by
  induction commits generalizing state with
  | nil => rfl
  | cons commit rest ih =>
      rw [List.foldl_cons, ih, List.flatMap_cons, meetRefs_append, List.map_cons, Layout.pushAll_cons]
      simp [behindPlaceholder, Nat.add_comm, Nat.add_left_comm]

theorem foldl_behindCommit (state : State) (commits : List Commit) :
    commits.foldl (behindCommit plan) state =
      { layout := (state.layout.pushAll (commits.map plan.attach)).2
        records := state.records + commits.length
        rows := state.rows +
          ((state.layout.pushAll (commits.map plan.attach)).1.filter fun row => plan.shows row.node).length
        judged := state.judged + if plan.filter.isSome then commits.length else 0
        refsSeen := meetRefs state.refsSeen (commits.flatMap fun commit => plan.refs.refsFor commit.id) } := by
  induction commits generalizing state with
  | nil => simp [Layout.pushAll, meetRefs]
  | cons commit rest ih =>
      rw [List.foldl_cons, ih, List.flatMap_cons, meetRefs_append, List.map_cons, Layout.pushAll_cons]
      simp only [behindCommit, List.filter_cons, Layout.node_push, List.length_cons, mk.injEq, true_and, and_true]
      refine ⟨by omega, ?_, ?_⟩
      · split
        · simp only [List.length_cons]; omega
        · rfl
      · split <;> omega

end State

def Run.behind (rows : List Layout.Row) (run : Run) : Run :=
  { run with rows := rows ++ run.rows }

theorem Run.behind_behind (rows others : List Layout.Row) (run : Run) :
    (run.behind others).behind rows = run.behind (rows ++ others) := by
  simp [behind]

section Course

variable {plan : Plan} {flag : Flag}

theorem place_eq (plan : Plan) (state : State) (commit : Commit) :
    state.place plan.refs commit =
      ((state.layout.push (plan.attach commit)).1,
        { state with
          layout := (state.layout.push (plan.attach commit)).2
          refsSeen := State.meetRefs state.refsSeen (plan.refs.refsFor commit.id) }) :=
  rfl

theorem stepPlaceholder_of_unset (state : State) (commit : Commit)
    (unset : flag (state.behindPlaceholder plan commit).moment = false) :
    stepPlaceholder plan flag state commit =
      ⟨some (state.layout.push (plan.attach commit)).1, none, state.behindPlaceholder plan commit⟩ := by
  simp only [State.moment, State.behindPlaceholder] at unset
  simp [stepPlaceholder, place_eq, deliver, State.behindPlaceholder, State.moment, unset]

theorem stepCommit_of_unset (state : State) (commit : Commit) (answers : plan.Answers (plan.attach commit))
    (unset : flag (state.behindCommit plan commit).moment = false) :
    stepCommit plan flag state commit =
      ⟨if plan.shows (plan.attach commit) then some (state.layout.push (plan.attach commit)).1 else none, none,
        state.behindCommit plan commit⟩ := by
  unfold stepCommit
  simp only [place_eq, Layout.node_push]
  simp only [State.moment, State.behindCommit, Plan.shows] at unset
  cases filtered : plan.filter with
  | none =>
      simp only [filtered, if_true, Option.isSome_none, Bool.false_eq_true, if_false, Nat.add_zero] at unset
      simp [deliver, State.behindCommit, Plan.shows, filtered, State.moment, unset]
  | some filter =>
      simp only [filtered, Option.isSome_some, if_true] at unset
      cases verdict : filter.judge (plan.attach commit) with
      | accept =>
          simp only [verdict, decide_true, if_true] at unset
          simp [deliver, State.behindCommit, Plan.shows, filtered, verdict, State.moment, unset]
      | reject => simp [State.behindCommit, Plan.shows, filtered, verdict]
      | crash said => exact absurd verdict (answers filter filtered said)

theorem runCommits_append (state : State) (front : List Commit) (tail : List (Except Log.Fault Commit))
    (answers : ∀ commit ∈ front, plan.Answers (plan.attach commit))
    (unset : ∀ moment, moment.records ≤ state.records + front.length → flag moment = false) :
    runCommits plan flag (front.map .ok ++ tail) state =
      (runCommits plan flag tail (front.foldl (State.behindCommit plan) state)).behind
        ((state.layout.pushAll (front.map plan.attach)).1.filter fun row => plan.shows row.node) := by
  induction front generalizing state with
  | nil => rfl
  | cons commit rest ih =>
      have records : (state.behindCommit plan commit).records = state.records + 1 := rfl
      have here : flag state.moment = false := unset _ (Nat.le_add_right _ _)
      have there : flag (state.behindCommit plan commit).moment = false := by
        apply unset
        simp only [State.moment, records, List.length_cons]
        omega
      rw [List.map_cons, List.cons_append, runCommits, if_neg (by simp [here])]
      rw [stepCommit_of_unset state commit (answers commit List.mem_cons_self) there, Run.after]
      dsimp only
      rw [ih _ (fun later member => answers later (List.mem_cons_of_mem _ member)) fun moment early => by
        apply unset
        simp only [records, List.length_cons] at early ⊢
        omega]
      rw [List.foldl_cons, List.map_cons, Layout.pushAll_cons, List.filter_cons, Layout.node_push]
      simp only [Run.behind, State.behindCommit]
      split <;> simp

theorem runPlaceholders_append (rest : State → Run) (state : State) (commits : List Commit)
    (unset : ∀ moment, moment.records ≤ state.records → flag moment = false) :
    runPlaceholders plan flag rest commits state =
      (rest (commits.foldl (State.behindPlaceholder plan) state)).behind
        (state.layout.pushAll (commits.map plan.attach)).1 := by
  induction commits generalizing state with
  | nil => rfl
  | cons commit later ih =>
      rw [runPlaceholders, stepPlaceholder_of_unset state commit (unset _ (Nat.le_refl _)), Run.after]
      dsimp only
      rw [ih (state.behindPlaceholder plan commit) unset, List.foldl_cons, List.map_cons, Layout.pushAll_cons]
      simp [Run.behind, State.behindPlaceholder]

def stateAfter (plan : Plan) (commits : List Commit) : State :=
  commits.foldl (State.behindCommit plan)
    ((placeholders plan).foldl (State.behindPlaceholder plan) (.start plan.settings))

theorem shownRows_eq (plan : Plan) (commits : List Commit) :
    shownRows plan commits =
      (laidOut plan []).1 ++
        ((laidOut plan []).2.pushAll (commits.map plan.attach)).1.filter fun row => plan.shows row.node := by
  have length : (laidOut plan []).1.length = (placeholders plan).length := by
    simp [laidOut, Layout.length_pushAll]
  have whole : (laidOut plan commits).1 =
      (laidOut plan []).1 ++ ((laidOut plan []).2.pushAll (commits.map plan.attach)).1 := by
    simp only [laidOut, List.map_append, Layout.pushAll_append, List.append_nil]
  simp only [shownRows, whole, ← length, List.take_left, List.drop_left]

/-- A commit more makes no difference to the rows before. -/
theorem shownRows_concat (plan : Plan) (front : List Commit) (commit : Commit) :
    shownRows plan (front ++ [commit]) =
      shownRows plan front ++
        if plan.shows (plan.attach commit) then [((laidOut plan front).2.push (plan.attach commit)).1] else [] := by
  have layout : ((laidOut plan []).2.pushAll (front.map plan.attach)).2 = (laidOut plan front).2 := by
    simp only [laidOut, List.map_append, Layout.pushAll_append, List.append_nil]
  simp only [shownRows_eq, List.map_append, List.map_cons, List.map_nil, Layout.pushAll_append, layout,
    Layout.pushAll, List.filter_append, List.filter_cons, List.filter_nil, Layout.node_push,
    List.append_assoc]

theorem stateAfter_eq (plan : Plan) (commits : List Commit) :
    stateAfter plan commits =
      { layout := (laidOut plan commits).2
        records := commits.length
        rows := (shownRows plan commits).length
        judged := if plan.filter.isSome then commits.length else 0
        refsSeen :=
          ((placeholders plan ++ commits).flatMap fun commit => plan.refs.refsFor commit.id).eraseDups } := by
  rw [stateAfter, State.foldl_behindPlaceholder, State.foldl_behindCommit, List.flatMap_append, ← meetRefs_nil,
    meetRefs_append]
  simp only [State.start, Nat.zero_add, shownRows_eq, laidOut, List.map_append, Layout.pushAll_append,
    List.append_nil, List.length_append, Layout.length_pushAll, List.length_map]

theorem summary_stateAfter (plan : Plan) (commits : List Commit) :
    (stateAfter plan commits).summary = summaryOf plan commits := by
  rw [stateAfter_eq]
  rfl

theorem Flag.never_unset (moment : Moment) : Flag.never moment = false :=
  rfl

/-- A pass whose log begins with commits over which nothing happens. -/
theorem run_append {source : Log.Source} {decoder : Log.Decoder} (known : plan.settings.decoder = .ok decoder)
    {front : List Commit} {tail : List (Except Log.Fault Commit)}
    (split : plan.items source = front.map .ok ++ tail)
    (answers : ∀ commit ∈ front, plan.Answers (plan.attach commit))
    (unset : ∀ moment, moment.records ≤ front.length → flag moment = false) :
    run plan flag source = (runCommits plan flag tail (stateAfter plan front)).behind (shownRows plan front) := by
  simp only [Plan.items, known] at split
  have records : ((placeholders plan).foldl (State.behindPlaceholder plan) (.start plan.settings)).records = 0 := by
    rw [State.foldl_behindPlaceholder]
    rfl
  simp only [run, known, split]
  rw [runPlaceholders_append _ _ _ fun moment early => unset moment (Nat.le_trans early (Nat.zero_le _)),
    runCommits_append _ _ _ answers fun moment early => unset moment (by omega), Run.behind_behind,
    shownRows_eq, State.foldl_behindPlaceholder]
  simp [stateAfter, laidOut, State.start, State.foldl_behindPlaceholder]

theorem run_never {source : Log.Source} {decoder : Log.Decoder} (known : plan.settings.decoder = .ok decoder)
    (answers : ∀ node, plan.Answers node) :
    (run plan .never source).events =
      (shownRows plan (commitsOf (plan.items source))).map .row ++
        [.finished (endingOf plan (plan.items source))] := by
  obtain ⟨tail, split, ending⟩ := exists_split_commitsOf (plan.items source)
  rw [run_append known split (fun _ _ => answers _) fun moment _ => Flag.never_unset moment, endingOf]
  rcases ending with ⟨rfl, none⟩ | ⟨fault, later, rfl, fails⟩
  · simp [none, runCommits, Flag.never, Run.behind, Run.events, summary_stateAfter]
  · simp [fails, runCommits, Flag.never, Run.behind, Run.events]

end Course

end Pass

end CommitLanes
