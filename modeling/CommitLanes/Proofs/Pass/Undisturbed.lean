import CommitLanes.Proofs.Pass.Pipeline
import CommitLanes.Proofs.Pass.Progress

/-! A pass that nobody calls off.

However the two parties take their turns and however much the channel holds, what is received
is what the pipeline over whole lists gives. A filter decides which rows are sent and touches
nothing else: the rows themselves, and everything that is counted of the commits, are those
of the pass without it.
-/

set_option autoImplicit false

namespace CommitLanes.Pass

/-- As long as nobody calls the pass off, these events are received in this order and no others,
and all of them when the session is over, which it is after turns enough for both parties. -/
structure Delivers (plan : Plan) (source : Log.Source) (events : List Event) : Prop where
  ordered : ∀ schedule, .cancel ∉ schedule → ((Session.start plan source).play plan schedule).received <+: events
  complete : ∀ schedule, .cancel ∉ schedule → ((Session.start plan source).play plan schedule).reply = .ended →
    ((Session.start plan source).play plan schedule).received = events
  ends : ∃ rounds, ∀ schedule, Session.Fair rounds schedule →
    ((Session.start plan source).play plan schedule).reply = .ended

/-- The interleaved session and the pass told as a whole are the same. -/
theorem delivers_run (plan : Plan) (source : Log.Source) :
    Delivers plan source (run plan .never source).events := by
  refine ⟨fun schedule quiet => ?_, fun schedule quiet ended => ?_, (Session.start plan source).effort + 1,
    fun schedule fair => Session.reply_eq_ended_iff.mpr (Session.isOver_of_fair fair)⟩
  · rw [← Session.outlook_start, ← Session.outlook_never_play rfl quiet]
    exact Session.received_prefix_outlook _
  · rw [← Session.outlook_start, ← Session.outlook_never_play rfl quiet]
    exact (Session.reply_eq_ended_iff.mp ended).received plan .never

variable {plan : Plan} {source : Log.Source}

theorem run_of_unknown {fault : Settings.Fault} (unknown : plan.settings.decoder = .error fault) (flag : Flag) :
    run plan flag source = ⟨[], .failed (.settings fault), ⟨0, 0, 0⟩⟩ := by
  rw [run, unknown]

/-- The undisturbed pass is the pipeline: lay out all commits before the first fault, the
placeholders first, keep what the filter accepts, and report the totals or the fault. -/
theorem delivers_pipeline (plan : Plan) (source : Log.Source) (decoder : Log.Decoder)
    (known : plan.settings.decoder = .ok decoder) (answers : ∀ node, plan.Answers node) :
    let items := (Log.Reader.start source decoder).items
    Delivers plan source
      ((shownRows plan (commitsOf items)).map .row ++ [.finished (endingOf plan items)]) := by
  intro items
  have same : plan.items source = items := by simp only [Plan.items, known, items]
  rw [← same, ← run_never known answers]
  exact delivers_run plan source

section Sample

def sampleId (byte : UInt8) : ObjectId :=
  ⟨List.replicate 20 byte, .inl List.length_replicate⟩

def sampleEntry (id : ObjectId) (parents : List ObjectId) (message : String) : Log.Entry where
  id := id
  tree := id
  parents := parents
  author := Bytes.ofString "Alice"
  authorEmail := Bytes.ofString "alice@example.com"
  authorDate := 1700000000
  committer := Bytes.ofString "Bob"
  committerEmail := Bytes.ofString "bob@example.com"
  commitDate := 1700000100
  encoding := none
  message := Bytes.ofString message

def sampleLog : Log.Source :=
  .ofBytes ((sampleEntry (sampleId 1) [sampleId 2] "second").encode ++ (sampleEntry (sampleId 2) [] "first").encode)

/-- A plan with placeholders that shows the first commit and not the second. -/
def samplePlan : Plan where
  settings := { Settings.standard with artificialCommits := true, seenWindow := some 2 }
  refs := .ofRefs [⟨"HEAD".toList, sampleId 1, .head⟩]
  filter := some (.message "first".toList)

def sampleDecoder : Log.Decoder :=
  ⟨.sha1, .utf8, .empty 4096 256⟩

theorem samplePlan_answers (node : Commit) : samplePlan.Answers node := by
  rintro _ ⟨⟩ said
  simp only [Filter.judge, Verdict.ofBool]
  split <;> nofun

/-- Three rows for two commits: the placeholders and the commit that the filter accepts. -/
theorem delivers_two_commits :
    samplePlan.settings.decoder = .ok sampleDecoder ∧ (∀ node, samplePlan.Answers node) ∧
      ∃ rows : List Layout.Row, Delivers samplePlan sampleLog
          (rows.map .row ++
            [.finished (.completed ⟨2, 3, [⟨"HEAD".toList, sampleId 1, .head⟩], [], 0⟩)]) ∧
        rows.map (·.node.id) = [.workingTree, .index, sampleId 2] := by
  have known : samplePlan.settings.decoder = .ok sampleDecoder := rfl
  have ending : endingOf samplePlan (Log.Reader.start sampleLog sampleDecoder).items =
      .completed ⟨2, 3, [⟨"HEAD".toList, sampleId 1, .head⟩], [], 0⟩ := by decide +kernel
  have delivers := delivers_pipeline samplePlan sampleLog sampleDecoder known samplePlan_answers
  dsimp only at delivers
  rw [ending] at delivers
  exact ⟨known, samplePlan_answers, _, delivers, by decide +kernel⟩

end Sample

section Sifting

def Plan.unfiltered (plan : Plan) : Plan :=
  { plan with filter := none }

def headRows (plan : Plan) : List Layout.Row :=
  (laidOut plan []).1

/-- The rows of these commits behind the placeholders, hidden ones too. -/
def tailRows (plan : Plan) (commits : List Commit) : List Layout.Row :=
  ((laidOut plan []).2.pushAll (commits.map plan.attach)).1

theorem map_node_headRows (plan : Plan) : (headRows plan).map (·.node) = (placeholders plan).map plan.attach := by
  rw [headRows, laidOut, Layout.map_node_pushAll, List.append_nil]

/-- Without a filter all rows are shown, and they are the same rows. -/
theorem shownRows_unfiltered (plan : Plan) (commits : List Commit) :
    shownRows plan.unfiltered commits = headRows plan ++ tailRows plan commits := by
  have all : ∀ row : Layout.Row, plan.unfiltered.shows row.node = true := fun _ => rfl
  simp only [shownRows_eq, all, List.filter_true]
  rfl

theorem endingOf_unfiltered (plan : Plan) (items : List (Except Log.Fault Commit)) :
    (∃ summary : Summary,
        endingOf plan items = .completed { summary with rows := (shownRows plan (commitsOf items)).length } ∧
        endingOf plan.unfiltered items =
          .completed { summary with rows := (shownRows plan.unfiltered (commitsOf items)).length }) ∨
      ∃ failure, endingOf plan items = .failed failure ∧ endingOf plan.unfiltered items = .failed failure := by
  simp only [endingOf]
  cases faultOf items with
  | none => exact .inl ⟨summaryOf plan (commitsOf items), rfl, rfl⟩
  | some fault => exact .inr ⟨_, rfl, rfl⟩

/-- A filter keeps rows back and does nothing else. The rows come in two parts, those of the
placeholders and those of the log; without known settings there are none. -/
theorem filter_only_keeps_back (plan : Plan) (source : Log.Source) (answers : ∀ node, plan.Answers node) :
    ∃ heads tails outcome other,
      Delivers plan source
        ((heads ++ tails.filter fun row => plan.shows row.node).map .row ++ [.finished outcome]) ∧
      Delivers plan.unfiltered source ((heads ++ tails).map .row ++ [.finished other]) ∧
      (heads.map (·.node) = (placeholders plan).map plan.attach ∨ heads ++ tails = []) ∧
      ((∃ summary : Summary,
          outcome = .completed
            { summary with rows := (heads ++ tails.filter fun row => plan.shows row.node).length } ∧
          other = .completed { summary with rows := (heads ++ tails).length }) ∨
        ∃ failure, outcome = .failed failure ∧ other = .failed failure) := by
  have filtered := delivers_run plan source
  have full := delivers_run plan.unfiltered source
  cases known : plan.settings.decoder with
  | error fault =>
      have unknown : plan.unfiltered.settings.decoder = .error fault := known
      rw [run_of_unknown known] at filtered
      rw [run_of_unknown unknown] at full
      exact ⟨[], [], _, _, filtered, full, .inr rfl, .inr ⟨_, rfl, rfl⟩⟩
  | ok decoder =>
      have ending := endingOf_unfiltered plan (plan.items source)
      rw [run_never known answers, shownRows_eq] at filtered
      have knownToo : plan.unfiltered.settings.decoder = .ok decoder := known
      rw [run_never knownToo (Plan.answers_of_unfiltered rfl), shownRows_unfiltered] at full
      rw [shownRows_eq, shownRows_unfiltered] at ending
      exact ⟨headRows plan, tailRows plan _, _, _, filtered, full, .inl (map_node_headRows plan), ending⟩

/-- The filter keeps back one row of four. -/
theorem filter_keeps_back_one :
    (∀ node, samplePlan.Answers node) ∧
      ∃ (heads tails : List Layout.Row) (outcome other : Outcome),
        Delivers samplePlan sampleLog
          ((heads ++ tails.filter fun row => samplePlan.shows row.node).map .row ++ [.finished outcome]) ∧
        Delivers samplePlan.unfiltered sampleLog ((heads ++ tails).map .row ++ [.finished other]) ∧
        (heads ++ tails.filter fun row => samplePlan.shows row.node).length = 3 ∧ (heads ++ tails).length = 4 := by
  obtain ⟨heads, tails, outcome, other, sifted, full, -⟩ :=
    filter_only_keeps_back samplePlan sampleLog samplePlan_answers
  let turns := (List.replicate 32 [Act.work, .receive]).flatten
  have few := congrArg List.length (sifted.complete turns (by decide +kernel) (by decide +kernel))
  have all := congrArg List.length (full.complete turns (by decide +kernel) (by decide +kernel))
  have received : ((Session.start samplePlan sampleLog).play samplePlan turns).received.length = 4 := by
    decide +kernel
  have unsifted :
      ((Session.start samplePlan.unfiltered sampleLog).play samplePlan.unfiltered turns).received.length = 5 := by
    decide +kernel
  rw [received] at few
  rw [unsifted] at all
  simp only [List.length_append, List.length_map, List.length_singleton] at few all
  refine ⟨samplePlan_answers, heads, tails, outcome, other, sifted, full, ?_, ?_⟩ <;>
    simp only [List.length_append] <;> omega

end Sifting

end CommitLanes.Pass
