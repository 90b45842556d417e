import CommitLanes.Proofs.Layout.Placeholders
import CommitLanes.Proofs.Pass.Undisturbed
import CommitLanes.Proofs.Ref.Catalog

/-! A pass with the placeholders and the same pass without them.

Where the head is the first commit of its log, the placeholders come on top of the history and touch
nothing of it but the row of the head, which the line from them runs into.
-/

set_option autoImplicit false

namespace CommitLanes.Pass

def Plan.showing (plan : Plan) (placeholders : Bool) : Plan :=
  { plan with settings := { plan.settings with artificialCommits := placeholders } }

def placeholderRows (head : ObjectId) : List Layout.Row :=
  [⟨0, .workingTree, 0, [], [0]⟩, ⟨1, .index head, 0, [Edge.straight 0 .index .firstParent], [0]⟩]

section Plans

variable {plan : Plan} {refs : List Ref} {head : ObjectId} {commit : Commit}

theorem placeholders_shown (leads : plan.refs.head = some head) :
    placeholders (plan.showing true) = [.workingTree, .index head] := by
  have found : (plan.showing true).refs.head = some head := leads
  have set : (plan.showing true).settings.artificialCommits = true := rfl
  rw [placeholders, if_pos set, found]

theorem genuine_attach (genuine : commit.Genuine) : (plan.attach commit).Genuine :=
  ⟨genuine.id, genuine.parents⟩

theorem refsFor_artificial (catalog : plan.refs = .ofRefs refs) (apart : ∀ ref ∈ refs, ref.target.isArtificial = false)
    {id : ObjectId} (artificial : id.isArtificial = true) : plan.refs.refsFor id = [] := by
  rw [catalog]
  apply (Ref.Catalog.made_ofRefs refs).indexes.none
  intro target
  obtain ⟨ref, inside, rfl⟩ := List.mem_map.mp target
  rw [apart ref inside] at artificial
  cases artificial

theorem attach_of_bare (bare : plan.refs.refsFor commit.id = []) (none : commit.refs = []) :
    plan.attach commit = commit := by
  rw [Plan.attach, bare, ← none]
  rfl

end Plans

section Pipelines

variable {plan : Plan} {first : Commit} {rest : List Commit}

/-- The first commit is the head, no commit knows of the placeholders, and no ref leads to them. -/
structure Led (plan : Plan) (first : Commit) (rest : List Commit) : Prop where
  head : plan.refs.head = some first.id
  genuine : ∀ commit ∈ first :: rest, commit.Genuine
  tree : plan.refs.refsFor .workingTree = []
  index : plan.refs.refsFor .index = []

theorem Led.laidOut (led : Led plan first rest) :
    let plain := Pass.laidOut (plan.showing false) (first :: rest)
    let marked := Pass.laidOut (plan.showing true) (first :: rest)
    marked.1 = placeholderRows first.id ++ plain.1.map (Layout.Row.lowered first.id) ∧
      marked.2.finish.1 = plain.2.finish.1 ∧ marked.2.anomalies = plain.2.anomalies := by
  obtain ⟨head, genuine, tree, index⟩ := led
  have attached : ∀ node ∈ plan.attach first :: rest.map plan.attach, node.Genuine := by
    rw [← List.map_cons, List.forall_mem_map]
    exact fun commit member => genuine_attach (genuine commit member)
  have bare : [Commit.workingTree, .index first.id].map plan.attach = [.workingTree, .index first.id] := by
    rw [List.map_cons, List.map_singleton, attach_of_bare tree rfl, attach_of_bare index rfl]
  have shown : Pass.laidOut (plan.showing true) (first :: rest) =
      (Layout.start plan.settings.seenWindow).pushAll
        ([.workingTree, .index first.id] ++ plan.attach first :: rest.map plan.attach) := by
    rw [Pass.laidOut, placeholders_shown head, List.map_append, ← List.map_cons, ← bare]
    rfl
  rw [shown]
  exact Layout.pushAll_behind_placeholders plan.settings.seenWindow _ attached

theorem Led.shownRows (led : Led plan first rest) :
    Pass.shownRows (plan.showing true) (first :: rest) =
      placeholderRows first.id ++ (Pass.shownRows (plan.showing false) (first :: rest)).map (Layout.Row.lowered first.id) := by
  obtain ⟨rows, -⟩ := led.laidOut
  have two : (placeholders (plan.showing true)).length = (placeholderRows first.id).length := by
    rw [placeholders_shown led.head]
    rfl
  have shows : (fun row : Layout.Row => (plan.showing true).shows row.node) ∘ Layout.Row.lowered first.id =
      fun row => (plan.showing false).shows row.node := rfl
  rw [Pass.shownRows, Pass.shownRows]
  simp only [rows, two, List.take_left, List.drop_left, List.filter_map, shows]
  rfl

theorem Led.refsSeen (led : Led plan first rest) :
    (Pass.summaryOf (plan.showing true) (first :: rest)).refsSeen =
      (Pass.summaryOf (plan.showing false) (first :: rest)).refsSeen := by
  have tree : (plan.showing true).refs.refsFor Commit.workingTree.id = [] := led.tree
  have index : (plan.showing true).refs.refsFor (Commit.index first.id).id = [] := led.index
  rw [Pass.summaryOf, placeholders_shown led.head, List.flatMap_append, List.flatMap_cons, List.flatMap_singleton, tree,
    index]
  rfl

theorem Led.summaryOf (led : Led plan first rest) :
    Pass.summaryOf (plan.showing true) (first :: rest) =
      { Pass.summaryOf (plan.showing false) (first :: rest) with
        rows := (Pass.summaryOf (plan.showing false) (first :: rest)).rows + 2 } := by
  obtain ⟨-, dangling, anomalies⟩ := led.laidOut
  have rows : (Pass.shownRows (plan.showing true) (first :: rest)).length =
      (Pass.shownRows (plan.showing false) (first :: rest)).length + 2 := by
    rw [led.shownRows, List.length_append, List.length_map, Nat.add_comm]
    rfl
  have refsSeen := led.refsSeen
  simp only [Pass.summaryOf] at refsSeen ⊢
  rw [rows, refsSeen, dangling, anomalies]

theorem Led.endingOf (led : Led plan first rest) {items : List (Except Log.Fault Commit)}
    (records : commitsOf items = first :: rest) :
    (∃ summary : Summary, Pass.endingOf (plan.showing false) items = .completed summary ∧
        Pass.endingOf (plan.showing true) items = .completed { summary with rows := summary.rows + 2 }) ∨
      ∃ failure, Pass.endingOf (plan.showing false) items = .failed failure ∧
        Pass.endingOf (plan.showing true) items = .failed failure := by
  simp only [Pass.endingOf, records]
  cases faultOf items with
  | none => exact .inl ⟨_, rfl, congrArg Outcome.completed led.summaryOf⟩
  | some fault => exact .inr ⟨_, rfl, rfl⟩

theorem delivers_showing {source : Log.Source} (answers : ∀ node, plan.Answers node)
    (records : commitsOf (plan.items source) = first :: rest) (placeholders : Bool) :
    Delivers (plan.showing placeholders) source
      ((shownRows (plan.showing placeholders) (first :: rest)).map .row ++
        [.finished (endingOf (plan.showing placeholders) (plan.items source))]) := by
  cases known : plan.settings.decoder with
  | error fault =>
      have none : plan.items source = [] := by rw [Plan.items, known]
      rw [none] at records
      cases records
  | ok decoder =>
      have knownToo : (plan.showing placeholders).settings.decoder = .ok decoder := known
      have answersToo : ∀ node, (plan.showing placeholders).Answers node := answers
      have delivers := delivers_run (plan.showing placeholders) source
      rw [run_never knownToo answersToo] at delivers
      rw [← records]
      exact delivers

end Pipelines

/-- Placeholders are transparent. Where the head is the first commit of its log and neither the log nor
the refs know of the placeholders, showing them puts their two rows in front and leaves all other rows as
they are, two further down, but for the line that now leads to the head. The same is counted and the
pass ends alike. -/
theorem placeholders_are_transparent (plan : Plan) (refs : List Ref) (source : Log.Source) (first : Commit)
    (rest : List Commit) (catalog : plan.refs = .ofRefs refs) (answers : ∀ node, plan.Answers node)
    (records : commitsOf (plan.items source) = first :: rest) (leads : plan.refs.head = some first.id)
    (genuine : ∀ commit ∈ first :: rest, commit.Genuine) (apart : ∀ ref ∈ refs, ref.target.isArtificial = false) :
    ∃ (rows : List Layout.Row) (outcome other : Outcome),
      Delivers (plan.showing false) source (rows.map .row ++ [.finished outcome]) ∧
      Delivers (plan.showing true) source
        ((placeholderRows first.id ++ rows.map (Layout.Row.lowered first.id)).map .row ++ [.finished other]) ∧
      (∀ row ∈ rows, row.number = 0 → row.node = plan.attach first) ∧
      ((∃ summary : Summary,
          outcome = .completed summary ∧ other = .completed { summary with rows := summary.rows + 2 }) ∨
        ∃ failure, outcome = .failed failure ∧ other = .failed failure) := by
  have led : Led plan first rest :=
    ⟨leads, genuine, refsFor_artificial catalog apart rfl, refsFor_artificial catalog apart rfl⟩
  refine ⟨shownRows (plan.showing false) (first :: rest), _, _, ?_, ?_, ?_, led.endingOf records⟩
  · exact delivers_showing answers records false
  · rw [← led.shownRows]
    exact delivers_showing answers records true
  · exact fun row shown => Layout.node_of_number_zero row (List.mem_filter.mp shown).1

def rowsOf (events : List Event) : List Layout.Row :=
  events.filterMap fun
    | .row row => some row
    | .finished _ => none

theorem rowsOf_finished (rows : List Layout.Row) (outcome : Outcome) :
    rowsOf (rows.map .row ++ [.finished outcome]) = rows := by
  rw [rowsOf, List.filterMap_append, List.filterMap_map]
  exact (List.append_nil _).trans List.filterMap_some

/-- The head and its parent, below the placeholders or not. -/
theorem placeholders_are_transparent_above_two :
    let plan := samplePlan.unfiltered
    ∃ first rest, commitsOf (plan.items sampleLog) = first :: rest ∧ plan.refs.head = some first.id ∧
      (∀ commit ∈ first :: rest, commit.Genuine) ∧
      ∃ (rows : List Layout.Row) (outcome other : Outcome),
        Delivers (plan.showing false) sampleLog (rows.map .row ++ [.finished outcome]) ∧
        Delivers (plan.showing true) sampleLog
          ((placeholderRows first.id ++ rows.map (Layout.Row.lowered first.id)).map .row ++ [.finished other]) ∧
        rows.map (fun row => (row.number, row.edges.length)) = [(0, 0), (1, 1)] := by
  intro plan
  have heads : (commitsOf (plan.items sampleLog)).head?.map (·.id) = some (sampleId 1) := by decide +kernel
  have genuine : ∀ commit ∈ commitsOf (plan.items sampleLog), commit.Genuine := by decide +kernel
  cases records : commitsOf (plan.items sampleLog) with
  | nil =>
      rw [records] at heads
      cases heads
  | cons first rest =>
      rw [records] at heads genuine
      have leads : plan.refs.head = some first.id := heads.symm
      obtain ⟨rows, outcome, other, plain, marked, -⟩ :=
        placeholders_are_transparent plan [⟨"HEAD".toList, sampleId 1, .head⟩] sampleLog first rest rfl
          (Plan.answers_of_unfiltered rfl) records leads genuine (by decide)
      let turns := (List.replicate 32 [Act.work, .receive]).flatten
      have received := congrArg rowsOf (plain.complete turns (by decide +kernel) (by decide +kernel))
      rw [rowsOf_finished] at received
      refine ⟨first, rest, rfl, leads, genuine, rows, outcome, other, plain, marked, ?_⟩
      rw [← received]
      decide +kernel

end CommitLanes.Pass
