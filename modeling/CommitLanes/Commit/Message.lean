import CommitLanes.Pieces
import CommitLanes.Text.Blank

/-! Messages taken apart.

The first line is the subject and everything behind the first blank line is the body.
Lines that continue the first paragraph are part of neither.
-/

set_option autoImplicit false

namespace CommitLanes.Message

def isNewline (c : Char) : Bool :=
  c = '\n'

/-- What follows the first blank line. A line without a newline behind it is no line to
look at. -/
def afterBlankLine (text : Text) : Option Text :=
  match _ : Pieces.cut isNewline text with
  | none => none
  | some (line, rest) => if Text.allBlank line then some rest else afterBlankLine rest
  termination_by text.length
  decreasing_by exact Pieces.length_of_cut (by assumption)

/-- One look at what is left: more to look at, or the answer. -/
def look (rest : Text) : Text ⊕ Option Text :=
  match Pieces.cut isNewline rest with
  | none => .inr none
  | some (line, later) => if Text.allBlank line then .inr (some later) else .inl later

def search : Nat → Text → Option (Option Text)
  | 0, _ => none
  | looks + 1, rest =>
      match look rest with
      | .inl later => search looks later
      | .inr answer => some answer

/-- Subject and body. A body of blanks alone is none. -/
def split (message : Text) : Text × Option Text :=
  let (first, rest) := (Pieces.cut isNewline message).getD (message, [])
  let body := (afterBlankLine rest).map Text.trim
  (Text.trimEnd first, body.filter fun text => !text.isEmpty)

end CommitLanes.Message
