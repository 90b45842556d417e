import CommitLanes.Text.Property.Extending
import CommitLanes.Text.Property.Ignorable
import CommitLanes.Text.Property.Unprintable

/-! A text between quotes, for diagnostics. What cannot be seen, or would change how its
neighbour looks, is shown by its code. -/

set_option autoImplicit false

namespace CommitLanes.Quoted

open Property (has)

def hexDigits (n : Nat) : Text :=
  Nat.toDigits 16 n

def codeOf (c : Char) : Text :=
  ['\\', 'u', '\x7b'] ++ hexDigits c.toNat ++ ['\x7d']

/-- Cannot be seen where it stands. The halfwidth sound marks and the filler of a leading
consonant have a place of their own. -/
def isHidden (c : Char) : Bool :=
  Property.isUnplaced c || Property.isFiller c || has Property.unprintable c

def escape (c : Char) : Text :=
  if c = '\x00' then ['\\', '0']
  else if c = '\t' then ['\\', 't']
  else if c = '\r' then ['\\', 'r']
  else if c = '\n' then ['\\', 'n']
  else if c = '\\' then ['\\', '\\']
  else if c = '"' then ['\\', '"']
  else if isHidden c then codeOf c
  else [c]

def encode (text : Text) : Text :=
  ['"'] ++ text.flatMap escape ++ ['"']

end CommitLanes.Quoted
