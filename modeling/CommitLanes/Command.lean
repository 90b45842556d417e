import CommitLanes.Command.Arguments
import CommitLanes.Command.Report
import CommitLanes.Pass.Handle
import CommitLanes.Printer
import CommitLanes.Repository
import CommitLanes.Settings.Document

/-! The commands: what each of them prints, and how it ends. -/

set_option autoImplicit false

namespace CommitLanes.Command

structure Environment where
  files : FileTree
  directory : Path
  input : Bytes
  columns : Option Text

structure Response where
  status : Nat
  output : Text
  errors : Text
  deriving DecidableEq

namespace Response

def done (output : Text) : Response :=
  ⟨0, output, []⟩

/-- A failure takes nothing back that was printed before. -/
def failed (output : Text) (report : Report) : Response :=
  ⟨1, output, report.text⟩

def misuse : Response :=
  ⟨2, [], "For more information, try '--help'.\n".toList⟩

end Response

structure Material where
  source : Log.Source
  refs : Ref.Catalog
  fromRepository : Bool

def Material.ofLog (source : Log.Source) : Material :=
  ⟨source, .empty, false⟩

def settingsCauses (fault : Settings.Fault) : List String :=
  match fault with
  | .unreadable cause => [fault.message, cause]
  | _ => [fault.message]

def Environment.read (environment : Environment) (name : Text) : Except FileTree.Fault Bytes :=
  environment.files.read environment.directory name.utf8

def settingsOf (environment : Environment) : Option Text → Except Report Settings
  | none => .ok .standard
  | some file =>
      (Settings.ofFile (environment.read file)).mapError fun fault =>
        ⟨"Failed to load config from " ++ String.ofList file, settingsCauses fault⟩

/-- A log from a file, or from the standard input. A directory can be opened but not read. -/
def logOf (environment : Environment) (file : Text) : Except Report Log.Source :=
  if file = ['-'] then .ok (.ofBytes environment.input)
  else match environment.read file with
    | .ok content => .ok (.ofBytes content)
    | .error .isDirectory => .ok ⟨[], [.failure FileTree.Fault.isDirectory.message]⟩
    | .error fault => .error ⟨"Failed to open " ++ String.ofList file, [fault.message]⟩

def repositoryAt (environment : Environment) (path : Text) : Except Report (Repository × List Ref) :=
  let found := do
    let repository ← Repository.openAt environment.files environment.directory path
    return (repository, ← repository.refs.first)
  found.mapError fun fault => ⟨fault.message, []⟩

def materialOf (environment : Environment) (options : LayoutOptions) : Except Report Material :=
  match options.input with
  | some file => do return .ofLog (← logOf environment file)
  | none => do
      let (repository, refs) ← repositoryAt environment options.path
      return ⟨(repository.history options.limit).first.source, .ofRefs refs, true⟩

/-- A width that is asked for counts before that of the terminal. -/
def widthOf (environment : Environment) (asked : Option Nat) : Nat :=
  (asked <|> environment.columns.bind Decimal.count?).getD 120

def filterOf (options : LayoutOptions) : Option Filter :=
  Filter.ofList ((options.author.map .author).toList ++ (options.grep.map .message).toList)

/-- A pass is called off when a row comes that is one too many. -/
def flagOf : Option Nat → Pass.Flag
  | none => .never
  | some limit => fun moment => limit < moment.rows

def linesOf (printer : Printer) (limit : Option Nat) (rows : List Layout.Row) : Text :=
  (rows.take (limit.getD rows.length)).flatMap fun row => printer.format row ++ ['\n']

/-- What made a layout fail. Of a repository's own troubles no more is told than that. -/
def causesOf (material : Material) : Pass.Failure → List String
  | .log (.unreadable cause) =>
      if material.fromRepository then []
      else [(Pass.Failure.log (.unreadable cause)).message, cause]
  | failure => [failure.message]

structure Job where
  plan : Pass.Plan
  material : Material
  printer : Printer
  limit : Option Nat

def jobOf (environment : Environment) (options : LayoutOptions) (settings : Settings)
    (material : Material) : Job where
  plan := ⟨settings, material.refs, filterOf options⟩
  material := material
  printer := ⟨if options.ascii then .ascii else .unicode, widthOf environment options.width, .terminal⟩
  limit := options.limit

/-- Only a failure is told. A layout that was called off did what it was asked for. -/
def Job.respond (job : Job) (output : Text) : Pass.Outcome → Response
  | .failed failure => .failed output ⟨"Layout failed", causesOf job.material failure⟩
  | _ => .done output

def Job.perform (job : Job) : Response :=
  let run := Pass.run job.plan (flagOf job.limit) job.material.source
  job.respond (linesOf job.printer job.limit run.rows) run.outcome

def layout (environment : Environment) (options : LayoutOptions) : Response :=
  -- Settings come first: without them nothing else is opened.
  let prepared := do
    let settings ← settingsOf environment options.config
    return jobOf environment options settings (← materialOf environment options)
  match prepared with
  | .error report => .failed [] report
  | .ok job => job.perform

def refLine (ref : Ref) : Text :=
  let kind := ref.kind.word.toList
  ref.target.short ++ ' ' :: kind ++ List.replicate (6 - kind.length) ' ' ++ ' ' :: ref.name ++ ['\n']

def refs (environment : Environment) (path : Text) : Response :=
  match repositoryAt environment path with
  | .error report => .failed [] report
  | .ok (_, found) =>
      match Ordered.sort Ref.order (Ref.Catalog.ofRefs found).toList with
      | [] => .done ("No refs in ".toList ++ path ++ ['\n'])
      | refs => .done (refs.flatMap refLine)

def answer (environment : Environment) : Request → Response
  | .layout options => layout environment options
  | .refs path => refs environment path
  | .help topic => .done topic.text
  | .misuse => .misuse

def run (environment : Environment) (words : List Text) : Response :=
  answer environment (.ofWords words)

end CommitLanes.Command
