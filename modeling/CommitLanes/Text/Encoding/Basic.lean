import CommitLanes.Text

/-! Decoding one place after another.

A decoder without memory looks at one byte and at what follows it, and says which
characters stand there and how many of the following bytes belong to them. A malformed
place becomes one U+FFFD. A byte of ASCII that breaks off a longer sequence is never
part of the malformed place, so a line end or a quote survives a damaged name.
-/

set_option autoImplicit false

namespace CommitLanes.Encoding

structure Reading where
  chars : Text
  taken : Nat

namespace Reading

def char (c : Char) (taken : Nat) : Reading :=
  ⟨[c], taken⟩

def code (value taken : Nat) : Reading :=
  char (Char.ofNat value) taken

def malformed (taken : Nat) : Reading :=
  char '\ufffd' taken

/-- A sequence that ends in the byte `last`, which is its `taken`-th after the first.
Where it stands for nothing, a last byte of ASCII is read again. -/
def ofChar? (found : Option Char) (last : UInt8) (taken : Nat) : Reading :=
  match found with
  | some c => char c taken
  | none => malformed (if Bytes.isAscii last then taken - 1 else taken)

end Reading

def decodeWith (read : UInt8 → Bytes → Reading) : Bytes → Text
  | [] => []
  | b :: rest => (read b rest).chars ++ decodeWith read (rest.drop (read b rest).taken)
  termination_by bytes => bytes.length
  decreasing_by simp only [List.length_drop, List.length_cons]; omega

def within (low high b : UInt8) : Bool :=
  low ≤ b && b ≤ high

end CommitLanes.Encoding
