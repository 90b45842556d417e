import CommitLanes.Toml.Number

/-! TOML documents: lines of headers, keys with their values, and comments. -/

set_option autoImplicit false

namespace CommitLanes.Toml

/-- Spaces, line ends and comments, which may stand anywhere in an array. A comment goes
to the end of its line. -/
def skipGaps : Nat → Text → Text
  | 0, text => text
  | fuel + 1, text =>
      match text with
      | '#' :: rest => skipGaps fuel (rest.dropWhile isInLine)
      | c :: rest =>
          if isSpace c then skipGaps fuel rest
          else match newline? text with
            | some rest => skipGaps fuel rest
            | none => text
      | [] => []

def gaps (text : Text) : Text :=
  skipGaps text.length text

/-- The items of an array up to its end. A comma may stand behind the last. -/
def itemsRest (item : Reader Value) : Nat → Reader (List Value)
  | 0, _ => none
  | fuel + 1, text =>
      match gaps text with
      | ']' :: rest => some ([], rest)
      | text => do
          let (value, rest) ← item text
          match gaps rest with
          | ',' :: rest => do
              let (values, rest) ← itemsRest item fuel rest
              some (value :: values, rest)
          | ']' :: rest => some ([value], rest)
          | _ => none

def splitKey (parts : List Text) : Option (List Text × Text) :=
  parts.getLast?.map fun last => (parts.dropLast, last)

def pair (item : Reader Value) (entries : Entries) (text : Text) : Option (Entries × Text) := do
  let (parts, rest) ← key text
  let (path, last) ← splitKey parts
  let (value, rest) ← item (skipSpace (← mark '=' rest))
  let entries ← entries.insert path last value
  some (entries, skipSpace rest)

/-- The entries up to the closing brace; no comma may stand behind the last. -/
def pairsRest (item : Reader Value) : Nat → Entries → Reader Entries
  | 0, _, _ => none
  | fuel + 1, entries, text => do
      let (entries, rest) ← pair item entries text
      match rest with
      | ',' :: rest => pairsRest item fuel entries rest
      | '\x7d' :: rest => some (entries, rest)
      | _ => none

def bracedTable (item : Reader Value) (text : Text) : Option (Value × Text) :=
  match skipSpace text with
  | '\x7d' :: rest => some (.table .braced [], rest)
  | _ => (pairsRest item text.length [] text).map fun (entries, rest) => (.table .braced entries, rest)

/-- A value with at most `depth` levels of arrays and tables in it, itself counted. -/
def value : Nat → Reader Value
  | 0, _ => none
  | depth + 1, text =>
      match text with
      | '"' :: _ | '\'' :: _ => (anyText text).map fun (text, rest) => (.text text, rest)
      | '[' :: rest =>
          if depth = 0 then none
          else (itemsRest (value depth) (rest.length + 1) rest).map fun (items, rest) =>
            (.array items, rest)
      | '\x7b' :: rest => if depth = 0 then none else bracedTable (value depth) rest
      | 't' :: _ => (word "true".toList text).map fun rest => (.boolean true, rest)
      | 'f' :: _ => (word "false".toList text).map fun rest => (.boolean false, rest)
      | _ => number text

def lineEnd (text : Text) : Option Text :=
  let text := skipSpace text
  let text := match text with
    | '#' :: rest => rest.dropWhile isInLine
    | _ => text
  if text.isEmpty then some [] else newline? text

structure Draft where
  root : Entries
  current : List Text

def Draft.empty : Draft :=
  ⟨[], []⟩

def Draft.add (draft : Draft) (path : List Text) (key : Text) (value : Value) : Option Draft := do
  let root ← Entries.within false (fun _ entries => entries.insert path key value) .header
    draft.current draft.root
  some { draft with root }

def keyLine (draft : Draft) (text : Text) : Option (Draft × Text) := do
  let (parts, rest) ← key text
  let (path, last) ← splitKey parts
  let (value, rest) ← value 80 (skipSpace (← mark '=' rest))
  let draft ← draft.add path last value
  some (draft, ← lineEnd rest)

def headerLine (draft : Draft) (text : Text) : Option (Draft × Text) := do
  let (parts, rest) ← key text
  let (path, last) ← splitKey parts
  let rest ← lineEnd (← mark ']' rest)
  some (⟨← draft.root.openTable path last, parts⟩, rest)

def doubledHeaderLine (draft : Draft) (text : Text) : Option (Draft × Text) := do
  let (parts, rest) ← key text
  let (path, last) ← splitKey parts
  let rest ← lineEnd (← mark ']' (← mark ']' rest))
  some (⟨← draft.root.openNext path last, parts⟩, rest)

def line (draft : Draft) (text : Text) : Option (Draft × Text) :=
  match text with
  | '[' :: '[' :: rest => doubledHeaderLine draft rest
  | '[' :: rest => headerLine draft rest
  | '#' :: _ | '\n' :: _ | '\r' :: _ => (lineEnd text).map fun rest => (draft, rest)
  | _ => keyLine draft text

def linesFrom : Nat → Draft → Text → Option Draft
  | 0, _, _ => none
  | fuel + 1, draft, text =>
      match skipSpace text with
      | [] => some draft
      | text => do
          let (draft, rest) ← line draft text
          linesFrom fuel draft rest

/-- The entries of a whole document. A byte order mark may stand in front. -/
def read (document : Text) : Option Entries :=
  let text := match document with
    | '\ufeff' :: rest => rest
    | text => text
  (linesFrom (text.length + 1) .empty text).map (·.root)

end CommitLanes.Toml
