import CommitLanes.Proofs.Command.Prompt
import CommitLanes.Proofs.Commit.Message
import CommitLanes.Proofs.Printer.Line

/-! A layout of a log that comes from a file or from the standard input.

Settings that load name a known encoding, so the log is read at all, and the filters of a command
always answer. There are no refs to show, and a subject is the first line of a message, so every
row is printed on one line.
-/

set_option autoImplicit false

namespace CommitLanes

namespace Log

theorem Decoder.newline_notMem_subject {decoder : Decoder} {raw : Bytes} {number : Nat} {commit : Commit}
    (decoded : (decoder.decode raw number).1 = .ok commit) : '\n' ∉ commit.subject := by
  cases read : Record.ofBytes decoder.hash raw with
  | error reason =>
      rw [decode_of_error read] at decoded
      cases decoded
  | ok record =>
      rw [decode_of_ok read] at decoded
      cases decoded
      exact fun member => absurd ((Message.parted_split _).oneLine _ member) (by decide)

namespace Reader

variable {reader : Reader} {commit : Commit}

theorem newline_notMem_subject_of_next (given : reader.next.1 = some (.ok commit)) : '\n' ∉ commit.subject := by
  unfold next at given
  split at given
  · cases given
  · split at given
    · cases given
    · cases given
    · exact Decoder.newline_notMem_subject (Option.some.inj given)

theorem newline_notMem_subject (reader : Reader) :
    ∀ commit ∈ Pass.commitsOf reader.items, '\n' ∉ commit.subject := by
  fun_induction items reader with
  | case1 => nofun
  | case2 => nofun
  | case3 reader commit given ih => exact List.forall_mem_cons.mpr ⟨newline_notMem_subject_of_next given, ih⟩

end Reader

end Log

namespace Settings

variable {settings : Settings}

theorem exists_decoder_of_encoding {encoding : Encoding} (known : settings.encoding = .ok encoding) :
    ∃ decoder, settings.decoder = .ok decoder := by
  rw [decoder, known]
  exact ⟨_, rfl⟩

theorem bind_eq_ok {ε α β : Type} {x : Except ε α} {f : α → Except ε β} {b : β} :
    (x >>= f) = .ok b ↔ ∃ a, x = .ok a ∧ f a = .ok b := by
  cases x <;> simp [bind, Except.bind]

theorem exists_decoder_of_ofDocument {document : Text} (loads : ofDocument document = .ok settings) :
    ∃ decoder, settings.decoder = .ok decoder := by
  unfold ofDocument at loads
  split at loads
  · cases loads
  next read _ =>
    obtain ⟨encoding, known, same⟩ := bind_eq_ok.mp loads
    cases same
    exact exists_decoder_of_encoding known

theorem exists_decoder_of_ofFile {content : Except FileTree.Fault Bytes} (loads : ofFile content = .ok settings) :
    ∃ decoder, settings.decoder = .ok decoder := by
  unfold ofFile at loads
  split at loads
  · cases loads
  · split at loads
    · cases loads
    · exact exists_decoder_of_ofDocument loads

end Settings

theorem Verdict.ofBool_ne_crash (accepted : Bool) (said : Option Text) : ofBool accepted ≠ crash said := by
  cases accepted <;> nofun

namespace Filter

def Answers (filter : Filter) (node : Commit) : Prop :=
  ∀ said, filter.judge node ≠ .crash said

variable {filter : Filter} {filters : List Filter} {node : Commit}

theorem judgeAll_ne_crash (each : ∀ filter ∈ filters, filter.Answers node) (said : Option Text) :
    judgeAll node filters ≠ .crash said := by
  induction filters with
  | nil => nofun
  | cons filter rest ih =>
      obtain ⟨here, later⟩ := List.forall_mem_cons.mp each
      rw [judgeAll]
      split
      · exact ih later
      · exact here said

theorem answers_of_ofList (combined : ofList filters = some filter) (each : ∀ filter ∈ filters, filter.Answers node) :
    filter.Answers node := by
  unfold ofList at combined
  split at combined
  · cases combined
  · cases combined
    exact each _ List.mem_cons_self
  · cases combined
    intro said
    rw [judge]
    exact judgeAll_ne_crash each said

end Filter

namespace Command

open Pass (Act Outcome Session)

variable {environment : Environment} {options : LayoutOptions} {settings : Settings}

theorem exists_decoder {config : Option Text} (loads : settingsOf environment config = .ok settings) :
    ∃ decoder, settings.decoder = .ok decoder := by
  cases config with
  | none =>
      cases loads
      exact ⟨_, rfl⟩
  | some file =>
      change (Settings.ofFile (environment.read file)).mapError _ = _ at loads
      cases read : Settings.ofFile (environment.read file) with
      | error fault =>
          rw [read] at loads
          cases loads
      | ok found =>
          rw [read] at loads
          cases loads
          exact Settings.exists_decoder_of_ofFile read

theorem answers_filterOf {filter : Filter} (asked : filterOf options = some filter) (node : Commit) :
    filter.Answers node := by
  refine Filter.answers_of_ofList asked fun part member => ?_
  simp only [List.mem_append, Option.mem_toList, Option.map_eq_some_iff] at member
  rcases member with ⟨pattern, -, rfl⟩ | ⟨pattern, -, rfl⟩
  · exact fun said => by simpa only [Filter.judge] using Verdict.ofBool_ne_crash _ said
  · exact fun said => by simpa only [Filter.judge] using Verdict.ofBool_ne_crash _ said

section Answer

variable {job : Job} {output : Text} {outcome : Outcome}

theorem output_respond : (job.respond output outcome).output = output := by
  cases outcome <;> rfl

theorem status_respond : (job.respond output outcome).status = 0 ↔ ∀ failure, outcome ≠ .failed failure := by
  cases outcome with
  | failed failure => exact iff_of_false Nat.one_ne_zero fun other => other failure rfl
  | _ => exact iff_of_true rfl nofun

theorem endingOf_ne_failed {plan : Pass.Plan} {items : List (Except Log.Fault Commit)} :
    (∀ failure, Pass.endingOf plan items ≠ .failed failure) ↔ Pass.faultOf items = none := by
  unfold Pass.endingOf
  cases Pass.faultOf items with
  | none => exact iff_of_true nofun rfl
  | some fault => exact iff_of_false (fun other => other _ rfl) nofun

theorem count_newline_lines {printer : Printer} {rows : List Layout.Row}
    (plain : ∀ row ∈ rows, '\n' ∉ printer.format row) :
    (rows.flatMap fun row => printer.format row ++ ['\n']).count '\n' = rows.length := by
  induction rows with
  | nil => rfl
  | cons row rest ih =>
      obtain ⟨here, later⟩ := List.forall_mem_cons.mp plain
      rw [List.flatMap_cons, List.count_append, List.count_append, List.count_eq_zero_of_not_mem here, ih later,
        List.count_singleton_self, List.length_cons]
      omega

end Answer

section Log

theorem refsFor_empty (id : ObjectId) : Ref.Catalog.empty.refsFor id = [] := by
  simp [Ref.Catalog.empty, Ref.Catalog.ofRefs, Ref.Catalog.refsFor, Ordered.sort, Ordered.distinct]

variable {source : Log.Source} {plan : Pass.Plan}

theorem placeholders_of_empty (unlabelled : plan.refs = .empty) : Pass.placeholders plan = [] := by
  unfold Pass.placeholders
  rw [unlabelled]
  split <;> rfl

theorem exists_commit_of_shownRows (unlabelled : plan.refs = .empty) {commits : List Commit} {row : Layout.Row}
    (shown : row ∈ Pass.shownRows plan commits) : ∃ commit ∈ commits, row.node = commit.withRefs [] := by
  have laid : row ∈ (Pass.laidOut plan commits).1 := by
    rcases List.mem_append.mp shown with first | later
    · exact List.mem_of_mem_take first
    · exact List.mem_of_mem_drop (List.mem_of_mem_filter later)
  have node : row.node ∈ (Pass.laidOut plan commits).1.map (·.node) := List.mem_map_of_mem laid
  rw [Pass.laidOut, Layout.map_node_pushAll, placeholders_of_empty unlabelled, List.nil_append] at node
  obtain ⟨commit, member, same⟩ := List.mem_map.mp node
  rw [Pass.Plan.attach, unlabelled, refsFor_empty] at same
  exact ⟨commit, member, same.symm⟩

variable {decoder : Log.Decoder} {row : Layout.Row}

theorem run_jobOf (known : settings.decoder = .ok decoder) (source : Log.Source) :
    let plan := (jobOf environment options settings (.ofLog source)).plan
    let items := (Log.Reader.start source decoder).items
    (Pass.run plan .never source).rows = Pass.shownRows plan (Pass.commitsOf items) ∧
      (Pass.run plan .never source).outcome = Pass.endingOf plan items := by
  intro plan items
  have answers : ∀ node, plan.Answers node := fun node filter asked => answers_filterOf asked node
  have knownToo : plan.settings.decoder = .ok decoder := known
  have same : plan.items source = items := by simp only [Pass.Plan.items, knownToo, items]
  have events := @Pass.run_never plan source decoder knownToo answers
  rw [same] at events
  exact Pass.eq_of_events_eq events

theorem status_undisturbed (known : settings.decoder = .ok decoder) (output : Text) :
    let job := jobOf environment options settings (.ofLog source)
    (job.respond output (Pass.run job.plan .never source).outcome).status = 0 ↔
      Pass.faultOf (Log.Reader.start source decoder).items = none := by
  intro job
  rw [status_respond, (run_jobOf known source).2]
  exact endingOf_ne_failed

theorem newline_notMem_line (known : settings.decoder = .ok decoder)
    (shown : row ∈ (Pass.run (jobOf environment options settings (.ofLog source)).plan .never source).rows) :
    '\n' ∉ (jobOf environment options settings (.ofLog source)).printer.format row := by
  rw [(run_jobOf known source).1] at shown
  obtain ⟨commit, member, node⟩ := exists_commit_of_shownRows rfl shown
  refine Printer.newline_notMem_format ?_ (Grapheme.flatten_clusters _) ?_ ?_
  · unfold jobOf
    dsimp only
    split <;> decide
  · rw [node]
    exact fun ref none => absurd none List.not_mem_nil
  · rw [node]
    exact Log.Reader.newline_notMem_subject _ commit member

theorem layout_eq {file : Text} (loads : settingsOf environment options.config = .ok settings)
    (given : options.input = some file) (found : logOf environment file = .ok source) :
    layout environment options = (jobOf environment options settings (.ofLog source)).perform := by
  simp only [layout, materialOf, loads, given, found, bind, Except.bind, pure, Except.pure]

end Log

/-- A layout of a log prints the rows of the undisturbed pass, each on one line, or as many of them
as the limit lets through, however its two parties take their turns and whenever the worker finds
out that it was asked to stop. Without a limit it fails if the log has a fault, and only then. -/
theorem prints_one_line_for_each_row {environment : Environment} {options : LayoutOptions} {settings : Settings}
    (loads : settingsOf environment options.config = .ok settings) (source : Log.Source) :
    let job := jobOf environment options settings (.ofLog source)
    ∃ (decoder : Log.Decoder) (rows : List Layout.Row) (ending : Outcome), settings.decoder = .ok decoder ∧
      Pass.Delivers job.plan source (rows.map .row ++ [.finished ending]) ∧
      (∀ row ∈ rows, '\n' ∉ job.printer.format row) ∧
      let shown := rows.take (options.limit.getD rows.length)
      let output := shown.flatMap fun row => job.printer.format row ++ ['\n']
      output.count '\n' = shown.length ∧
      (∃ rounds, ∀ schedule, Session.Fair rounds schedule → ∃ answer, job.answer? schedule = some answer) ∧
      (∀ schedule answer, job.answer? schedule = some answer →
        answer.output = output ∧ (options.limit = none →
          (answer.status = 0 ↔ Pass.faultOf (Log.Reader.start source decoder).items = none))) ∧
      ∀ file, options.input = some file → logOf environment file = .ok source →
        ∃ schedule, job.answer? schedule = some (layout environment options) := by
  intro job
  obtain ⟨decoder, known⟩ := exists_decoder loads
  have plain : ∀ row ∈ (Pass.run job.plan .never source).rows, '\n' ∉ job.printer.format row := fun row =>
    newline_notMem_line known
  refine ⟨decoder, _, _, known, Pass.delivers_run job.plan source, plain, ?_⟩
  intro shown output
  refine ⟨count_newline_lines fun row member => plain row (List.mem_of_mem_take member), ?_, ?_, ?_⟩
  · exact ⟨_, fun _ => Console.exists_answer_of_fair⟩
  · intro schedule answer answered
    rcases Console.answer_eq answered with rfl | ⟨rfl, -, limit, limited, -⟩
    · exact ⟨output_respond, fun _ => status_undisturbed known output⟩
    · exact ⟨rfl, fun unlimited => absurd (unlimited.symm.trans limited) nofun⟩
  · intro file given found
    obtain ⟨schedule, performed⟩ := Console.exists_perform job
    exact ⟨schedule, performed.trans (congrArg some (layout_eq loads given found).symm)⟩

section Sample

def sampleEnvironment (content : Bytes) : Environment where
  files := ⟨[([Bytes.ofString "log"], content)], []⟩
  directory := []
  input := []
  columns := none

def sampleOptions : LayoutOptions where
  path := ['.']
  input := some "log".toList
  limit := some 1
  author := none
  grep := none
  config := none
  ascii := true
  width := some 40

def sampleJob (content : Bytes) : Job :=
  jobOf (sampleEnvironment content) sampleOptions .standard (.ofLog (.ofBytes content))

theorem logOf_sample (content : Bytes) :
    logOf (sampleEnvironment content) "log".toList = .ok (.ofBytes content) :=
  rfl

/-- Two commits, of which the second is the parent of the first. -/
def sampleContent : Bytes :=
  (Pass.sampleEntry (Pass.sampleId 1) [Pass.sampleId 2] "second").encode ++
    (Pass.sampleEntry (Pass.sampleId 2) [] "first").encode

theorem prints_one_line_of_two_rows :
    settingsOf (sampleEnvironment sampleContent) sampleOptions.config = .ok .standard ∧
      (∃ schedule answer, (sampleJob sampleContent).answer? schedule = some answer) ∧
      ∀ schedule answer, (sampleJob sampleContent).answer? schedule = some answer →
        answer.output = "* 01010101 2023-11-14 second\n".toList := by
  have loads : settingsOf (sampleEnvironment sampleContent) sampleOptions.config = .ok .standard := rfl
  obtain ⟨decoder, rows, ending, -, -, -, -, -, each, performs⟩ :=
    prints_one_line_for_each_row loads (.ofBytes sampleContent)
  obtain ⟨schedule, performed⟩ := performs "log".toList rfl (logOf_sample sampleContent)
  have printed : (layout (sampleEnvironment sampleContent) sampleOptions).output =
      "* 01010101 2023-11-14 second\n".toList := by decide +kernel
  refine ⟨loads, ⟨schedule, _, performed⟩, fun other answer answered => ?_⟩
  rw [← printed, (each schedule _ performed).1]
  exact (each other answer answered).1

end Sample

end Command

end CommitLanes
