import CommitLanes.Command.Help
import CommitLanes.Decimal

/-! What the words of a command line ask for.

The words are first read into arguments, from left to right, and the arguments are then
put into a draft one by one. The first that does not fit, or that asks for help, decides.
-/

set_option autoImplicit false

namespace CommitLanes.Command

inductive Switch where
  | verbose
  | ascii
  | help
  deriving DecidableEq, Repr

inductive Setting where
  | input
  | limit
  | author
  | grep
  | config
  | width
  deriving DecidableEq, Repr

inductive Use where
  | switch (switch : Switch)
  | setting (setting : Setting)
  deriving DecidableEq, Repr

namespace Use

def sharedNames : List (String × Use) :=
  [("verbose", .switch .verbose), ("help", .switch .help)]

def sharedLetters : List (Char × Use) :=
  [('v', .switch .verbose), ('h', .switch .help)]

def names : Topic → List (String × Use)
  | .layout => [
      ("input", .setting .input),
      ("limit", .setting .limit),
      ("author", .setting .author),
      ("grep", .setting .grep),
      ("config", .setting .config),
      ("ascii", .switch .ascii),
      ("width", .setting .width)] ++ sharedNames
  | _ => sharedNames

def letters : Topic → List (Char × Use)
  | .layout => ('n', .setting .limit) :: sharedLetters
  | _ => sharedLetters

/-- Names are never cut short. -/
def ofName? (topic : Topic) (name : Text) : Option Use :=
  ((names topic).find? fun entry => entry.1.toList = name).map (·.2)

def ofLetter? (topic : Topic) (letter : Char) : Option Use :=
  (letters topic).lookup letter

end Use

/-- How a word is written. A minus alone is a plain word. -/
inductive Form where
  | plain
  | terminator
  | long (name : Text) (value : Option Text)
  | short (letters : Text)
  deriving DecidableEq

namespace Form

def ofWord : Text → Form
  | ['-', '-'] => .terminator
  | '-' :: '-' :: name =>
      match Pieces.cut (· == '=') name with
      | some (name, value) => .long name (some value)
      | none => .long name none
  | '-' :: letter :: letters => .short (letter :: letters)
  | _ => .plain

def isOption : Form → Bool
  | long _ _ => true
  | short _ => true
  | _ => false

end Form

inductive Argument where
  | switch (switch : Switch)
  | setting (setting : Setting) (value : Text)
  | place (path : Text)
  | misuse
  deriving DecidableEq

namespace Argument

/-- The arguments of one word, and the setting that waits for the next word, if any. -/
abbrev Reading := List Argument × Option Setting

def ofName (topic : Topic) (name : Text) (value : Option Text) : Reading :=
  match Use.ofName? topic name, value with
  | some (.switch s), none => ([switch s], none)
  | some (.setting s), none => ([], some s)
  | some (.setting s), some value => ([setting s value], none)
  | _, _ => ([.misuse], none)

/-- A setting takes the rest of its word as its value, if there is a rest. -/
def ofLetters (topic : Topic) : Text → Reading
  | [] => ([], none)
  | letter :: rest =>
      match Use.ofLetter? topic letter with
      | some (.switch s) =>
          let (arguments, waiting) := ofLetters topic rest
          (switch s :: arguments, waiting)
      | some (.setting s) =>
          match rest with
          | [] => ([], some s)
          | '=' :: value => ([setting s value], none)
          | value => ([setting s value], none)
      | none => ([.misuse], none)

/-- The arguments of all words. A word that is written like an option is nobody's value. -/
def ofWords (topic : Topic) : Option Setting → List Text → List Argument
  | none, [] => []
  | some _, [] => [.misuse]
  | waiting, word :: rest =>
      -- A setting that still waits when the words end, or meets an option, has no value.
      match waiting, Form.ofWord word with
      | some s, .plain => setting s word :: ofWords topic none rest
      | some _, _ => [.misuse]
      | none, .plain => place word :: ofWords topic none rest
      | none, .terminator => rest.map place
      | none, .long name value =>
          let (arguments, waiting) := ofName topic name value
          arguments ++ ofWords topic waiting rest
      | none, .short letters =>
          let (arguments, waiting) := ofLetters topic letters
          arguments ++ ofWords topic waiting rest

end Argument

structure Draft where
  path : Option Text
  input : Option Text
  limit : Option Nat
  author : Option Text
  grep : Option Text
  config : Option Text
  width : Option Nat
  ascii : Bool
  verbose : Bool
  deriving DecidableEq

inductive Stop where
  | help
  | misuse
  deriving DecidableEq, Repr

namespace Draft

def empty : Draft :=
  ⟨none, none, none, none, none, none, none, false, false⟩

def once {α : Type} (held value : Option α) : Except Stop (Option α) :=
  match held, value with
  | none, some value => .ok (some value)
  | _, _ => .error .misuse

def onceSet (held : Bool) : Except Stop Bool :=
  if held then .error .misuse else .ok true

def fileName? (value : Text) : Option Text :=
  if value.isEmpty then none else some value

def put (draft : Draft) : Argument → Except Stop Draft
  | .misuse => .error .misuse
  | .switch .help => .error .help
  | .switch .verbose => return { draft with verbose := ← onceSet draft.verbose }
  | .switch .ascii => return { draft with ascii := ← onceSet draft.ascii }
  | .place path => return { draft with path := ← once draft.path (fileName? path) }
  | .setting .input value => return { draft with input := ← once draft.input (fileName? value) }
  | .setting .config value => return { draft with config := ← once draft.config (fileName? value) }
  | .setting .author value => return { draft with author := ← once draft.author (some value) }
  | .setting .grep value => return { draft with grep := ← once draft.grep (some value) }
  | .setting .limit value => return { draft with limit := ← once draft.limit (Decimal.count? value) }
  | .setting .width value => return { draft with width := ← once draft.width (Decimal.count? value) }

def ofWords (topic : Topic) (words : List Text) : Except Stop Draft :=
  (Argument.ofWords topic none words).foldlM put empty

end Draft

structure LayoutOptions where
  path : Text
  input : Option Text
  limit : Option Nat
  author : Option Text
  grep : Option Text
  config : Option Text
  ascii : Bool
  width : Option Nat
  deriving DecidableEq

inductive Request where
  | layout (options : LayoutOptions)
  | refs (path : Text)
  | help (topic : Topic)
  | misuse
  deriving DecidableEq

namespace Request

/-- Without a path a command works on the current directory. -/
def pathOf (draft : Draft) : Text :=
  draft.path.getD ['.']

def layoutOf (draft : Draft) : LayoutOptions where
  path := pathOf draft
  input := draft.input
  limit := draft.limit
  author := draft.author
  grep := draft.grep
  config := draft.config
  ascii := draft.ascii
  width := draft.width

def ofDraft (topic : Topic) (make : Draft → Request) : Except Stop Draft → Request
  | .ok draft => make draft
  | .error .help => .help topic
  | .error .misuse => .misuse

/-- Behind the word for help stands at most one command. -/
def ofHelpWords : List Text → Request
  | [] => .help .program
  | [word] => match Topic.ofWord? word with
      | some topic => .help topic
      | none => .misuse
  | _ => .misuse

def ofCommand : List Text → Request
  | [] => .misuse
  | word :: rest =>
      match Topic.ofWord? word with
      | some .layout => ofDraft .layout (fun draft => .layout (layoutOf draft)) (Draft.ofWords .layout rest)
      | some .refs => ofDraft .refs (fun draft => .refs (pathOf draft)) (Draft.ofWords .refs rest)
      | some .help => ofHelpWords rest
      | _ => .misuse

/-- The options in front of the command are those of the program, and are counted apart
from the command's own. -/
def ofWords (words : List Text) : Request :=
  let isOption (word : Text) : Bool := (Form.ofWord word).isOption
  ofDraft .program (fun _ => ofCommand (words.dropWhile isOption))
    (Draft.ofWords .program (words.takeWhile isOption))

end Request

end CommitLanes.Command
