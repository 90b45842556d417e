import CommitLanes.Decimal

/-! Texts and words of a TOML document.

Every reader takes the characters from where it stands and gives what it has read and the
rest, or nothing where the document is malformed.
-/

set_option autoImplicit false

namespace CommitLanes.Toml

abbrev Reader (α : Type) := Text → Option (α × Text)

def isSpace (c : Char) : Bool :=
  c = ' ' || c = '\t'

def skipSpace (text : Text) : Text :=
  text.dropWhile isSpace

def isInLine (c : Char) : Bool :=
  c = '\t' || (' ' ≤ c && c ≠ '\x7f')

def newline? : Text → Option Text
  | '\n' :: rest => some rest
  | '\r' :: '\n' :: rest => some rest
  | _ => none

def hexDigit? (c : Char) : Option Nat :=
  if '0' ≤ c && c ≤ '9' then some (c.toNat - '0'.toNat)
  else if 'a' ≤ c && c ≤ 'f' then some (c.toNat - 'a'.toNat + 10)
  else if 'A' ≤ c && c ≤ 'F' then some (c.toNat - 'A'.toNat + 10)
  else none

def codePoint (count : Nat) (text : Text) : Option (Char × Text) := do
  let digits ← (text.take count).mapM hexDigit?
  let code := digits.foldl (fun code digit => code * 16 + digit) 0
  if h : digits.length = count ∧ code.isValidChar then
    some (Char.ofNatAux code h.2, text.drop count)
  else none

def escaped : Reader Char
  | 'b' :: rest => some ('\x08', rest)
  | 't' :: rest => some ('\t', rest)
  | 'n' :: rest => some ('\n', rest)
  | 'f' :: rest => some ('\x0c', rest)
  | 'r' :: rest => some ('\r', rest)
  | '"' :: rest => some ('"', rest)
  | '\\' :: rest => some ('\\', rest)
  | 'u' :: rest => codePoint 4 rest
  | 'U' :: rest => codePoint 8 rest
  | _ => none

def skipLines : Text → Text
  | '\n' :: rest => skipLines rest
  | '\r' :: '\n' :: rest => skipLines rest
  | c :: rest => if isSpace c then skipLines rest else c :: rest
  | [] => []

def joinedLine? (text : Text) : Option Text :=
  (newline? (skipSpace text)).map skipLines

def basicRest : Nat → Reader Text
  | 0, _ => none
  | _ + 1, [] => none
  | _ + 1, '"' :: rest => some ([], rest)
  | fuel + 1, '\\' :: rest => do
      let (c, rest) ← escaped rest
      let (more, rest) ← basicRest fuel rest
      some (c :: more, rest)
  | fuel + 1, c :: rest =>
      if isInLine c then do
        let (more, rest) ← basicRest fuel rest
        some (c :: more, rest)
      else none

def literalRest : Reader Text
  | [] => none
  | c :: rest =>
      if c = '\'' then some ([], rest)
      else if isInLine c then do
        let (more, rest) ← literalRest rest
        some (c :: more, rest)
      else none

/-- The end of a text between triple marks, from the first of a run of marks on. Up to
two marks may stand directly before the closing three. -/
def closing? (mark : Char) (text : Text) : Option (Text × Text) :=
  let count := (text.takeWhile (· = mark)).length
  if 3 ≤ count then
    let inside := min (count - 3) 2
    some (List.replicate inside mark, text.drop (inside + 3))
  else none

/-- The rest of a text between triple marks, which may go over several lines. Between
apostrophes a backslash means nothing. -/
def blockRest (mark : Char) : Nat → Reader Text
  | 0, _ => none
  | _ + 1, [] => none
  | fuel + 1, c :: rest =>
      if c = mark then
        match closing? mark (c :: rest) with
        | some found => some found
        | none => do
            let (more, rest) ← blockRest mark fuel rest
            some (c :: more, rest)
      else match newline? (c :: rest) with
        | some rest => do
            let (more, rest) ← blockRest mark fuel rest
            some ('\n' :: more, rest)
        | none =>
            if c = '\\' && mark = '"' then
              match joinedLine? rest with
              | some rest => blockRest mark fuel rest
              | none => do
                  let (c, rest) ← escaped rest
                  let (more, rest) ← blockRest mark fuel rest
                  some (c :: more, rest)
            else if isInLine c then do
              let (more, rest) ← blockRest mark fuel rest
              some (c :: more, rest)
            else none

/-- A line end directly behind the opening marks is no part of the text. -/
def block (mark : Char) (text : Text) : Option (Text × Text) :=
  let text := (newline? text).getD text
  blockRest mark (text.length + 1) text

def lineText : Reader Text
  | '"' :: rest => basicRest (rest.length + 1) rest
  | '\'' :: rest => literalRest rest
  | _ => none

def anyText : Reader Text
  | '"' :: '"' :: '"' :: rest => block '"' rest
  | '\'' :: '\'' :: '\'' :: rest => block '\'' rest
  | text => lineText text

def isBare (c : Char) : Bool :=
  ('a' ≤ c && c ≤ 'z') || ('A' ≤ c && c ≤ 'Z') || ('0' ≤ c && c ≤ '9') || c = '-' || c = '_'

def keyPart : Reader Text
  | '"' :: rest => lineText ('"' :: rest)
  | '\'' :: rest => lineText ('\'' :: rest)
  | text =>
      let word := text.takeWhile isBare
      if word.isEmpty then none else some (word, text.dropWhile isBare)

def keyParts : Nat → Reader (List Text)
  | 0, _ => none
  | fuel + 1, text => do
      let (part, rest) ← keyPart (skipSpace text)
      match skipSpace rest with
      | '.' :: rest => do
          let (parts, rest) ← keyParts fuel rest
          some (part :: parts, rest)
      | rest => some ([part], rest)

/-- A key has less than eighty parts. -/
def key (text : Text) : Option (List Text × Text) :=
  keyParts 79 text

def word (expected : Text) (text : Text) : Option Text :=
  if expected.isPrefixOf text then some (text.drop expected.length) else none

end CommitLanes.Toml
