import CommitLanes.Pieces
import CommitLanes.Bytes

/-! The names a reference may have: words between slashes, with what shells and revision
expressions use kept out. -/

set_option autoImplicit false

namespace CommitLanes.Repository.Name

def isSlash (b : UInt8) : Bool :=
  b == 0x2F

def lockSuffix : Bytes :=
  Bytes.ofString ".lock"

def isForbidden (b : UInt8) : Bool :=
  b ≤ 0x20 || (Bytes.ofString "~^:\\?[*").contains b

def hasPair (first second : UInt8) : Bytes → Bool
  | a :: b :: rest => (a == first && b == second) || hasPair first second (b :: rest)
  | _ => false

/-- Empty words are let through here. -/
def isWord (word : Bytes) : Bool :=
  word.head? ≠ some 0x2E && !word.any isForbidden && !hasPair 0x2E 0x2E word &&
    !hasPair 0x40 0x7B word && !Bytes.endsWith word lockSuffix

/-- Capitals and inner underscores, as in the names of heads. -/
def isCapital (word : Bytes) : Bool :=
  word.all (fun b => (0x41 ≤ b && b ≤ 0x5A) || b == 0x5F) && word.head? ≠ some 0x5F &&
    word.getLast? ≠ some 0x5F

def lengthLimit : Nat :=
  1023

/-- The name without empty words, if it is one. A single word must be in capitals, and no
other name may start with such a word. -/
def normalize? (name : Bytes) : Option Bytes :=
  let words := Pieces.split isSlash name
  let filled := words.filter fun word => !word.isEmpty
  let first := words.headD []
  let last := words.getLastD []
  if first.isEmpty || last.isEmpty || last.getLast? = some 0x2E || !words.all isWord then none
  -- Names of one word and names of several must not be taken for each other.
  else if isCapital first = (filled.length = 1) then
    let joined := filled.foldl (fun name word =>
      if name.isEmpty then word else name ++ 0x2F :: word) []
    if joined.length ≤ lengthLimit then some joined else none
  else none

end CommitLanes.Repository.Name
