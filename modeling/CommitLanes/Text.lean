import CommitLanes.Bytes

/-! Text as a list of characters.

Everything this library does with text works on characters from the left or from the
right: it trims, cuts, compares and measures. Sizes in bytes and the bytes themselves
are those of UTF-8.
-/

set_option autoImplicit false

namespace CommitLanes

abbrev Text := List Char

namespace Text

def utf8 (text : Text) : Bytes :=
  text.flatMap String.utf8EncodeChar

def size (text : Text) : Nat :=
  text.utf8.length

def contains (pattern : Text) : Text → Bool
  | [] => pattern.isEmpty
  | c :: rest => pattern.isPrefixOf (c :: rest) || contains pattern rest

def startsWith (text start : Text) : Bool :=
  start.isPrefixOf text

def dropEnd (c : Char) (text : Text) : Text :=
  (text.reverse.dropWhile (· == c)).reverse

def joined (separator : Text) : List Text → Text
  | [] => []
  | [only] => only
  | first :: rest => first ++ separator ++ joined separator rest

/-- Order by code point, which is also the order of the UTF-8 bytes. -/
def order (a b : Text) : Ordering :=
  compare a b

@[simp] theorem utf8_nil : utf8 [] = [] := rfl

@[simp] theorem utf8_append (a b : Text) : utf8 (a ++ b) = utf8 a ++ utf8 b := by
  simp [utf8]

end Text

end CommitLanes
