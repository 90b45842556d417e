import CommitLanes.Hex

/-! Names of objects: digests of twenty or thirty-two bytes, written in hexadecimal.

Two names are reserved for content that is not committed yet, the working tree and the
index. They take part in a layout like commits but are printed differently.
-/

set_option autoImplicit false

namespace CommitLanes

inductive HashFunction where
  | sha1
  | sha256
  deriving DecidableEq, Repr

namespace HashFunction

def byteLength : HashFunction → Nat
  | sha1 => 20
  | sha256 => 32

def hexLength (hash : HashFunction) : Nat :=
  hash.byteLength * 2

end HashFunction

structure ObjectId where
  bytes : Bytes
  known_length : bytes.length = 20 ∨ bytes.length = 32
  deriving DecidableEq, Repr

namespace ObjectId

inductive Fault where
  | length (expected found : Nat)
  | digit
  deriving DecidableEq, Repr

def Fault.message : Fault → String
  | .length expected found => s!"expected {expected} hex digits, found {found}"
  | .digit => "invalid hex digit in object id"

def ofBytes? (bytes : Bytes) : Option ObjectId :=
  if known : bytes.length = 20 ∨ bytes.length = 32 then some ⟨bytes, known⟩ else none

/-- Takes exactly the digits that a digest of this kind has. The length is judged
before the digits are looked at. -/
def ofHex (hash : HashFunction) (hex : Bytes) : Except Fault ObjectId :=
  if fits : hex.length = hash.hexLength then
    match read : Hex.decode hex with
    | none => .error .digit
    | some bytes =>
        .ok ⟨bytes, by
          have := Hex.length_of_decode read
          cases hash <;> simp [HashFunction.hexLength, HashFunction.byteLength] at fits <;> omega⟩
  else
    .error (.length hash.hexLength hex.length)

/-- A text of sixty-four bytes can only name a long digest; any other is held against
the short one. -/
def ofText (text : Text) : Except Fault ObjectId :=
  ofHex (if text.size = HashFunction.sha256.hexLength then .sha256 else .sha1) text.utf8

def hex (id : ObjectId) : Text :=
  Hex.encode id.bytes

def short (id : ObjectId) : Text :=
  id.hex.take 8

def inspect (id : ObjectId) : Text :=
  "CommitId(".toList ++ id.short ++ [')']

def workingTree : ObjectId :=
  ⟨List.replicate 20 0x11, by simp⟩

def index : ObjectId :=
  ⟨List.replicate 20 0x22, by simp⟩

def isArtificial (id : ObjectId) : Bool :=
  id = workingTree || id = index

def padded (id : ObjectId) : Bytes :=
  id.bytes ++ List.replicate (32 - id.bytes.length) 0

/-- Order of the padded fields. The length decides between a short digest and the long
one that continues it with zeros. -/
def order (a b : ObjectId) : Ordering :=
  (compare a.padded b.padded).then (compare a.bytes.length b.bytes.length)

end ObjectId

end CommitLanes
