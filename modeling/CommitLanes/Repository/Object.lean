import CommitLanes.Decimal
import CommitLanes.ObjectId
import CommitLanes.Sha1
import CommitLanes.Text.Utf8
import CommitLanes.Zlib

/-! Objects of a repository, and the files that hold them. -/

set_option autoImplicit false

namespace CommitLanes.Repository

inductive Object.Kind where
  | commit
  | tree
  | blob
  | tag
  deriving DecidableEq, Repr

structure Object where
  kind : Object.Kind
  content : Bytes
  deriving DecidableEq

namespace Object

def Kind.all : List Kind :=
  [commit, tree, blob, tag]

def Kind.word : Kind → String
  | commit => "commit"
  | tree => "tree"
  | blob => "blob"
  | tag => "tag"

def Kind.ofWord? (word : Bytes) : Option Kind :=
  Kind.all.find? fun kind => Bytes.ofString kind.word = word

def Kind.ofStart? (word : Bytes) : Option Kind :=
  Kind.all.find? fun kind => Bytes.startsWith word (Bytes.ofString kind.word)

def Kind.ofNumber? : Nat → Option Kind
  | 1 => some commit
  | 2 => some tree
  | 3 => some blob
  | 4 => some tag
  | _ => none

/-- Kind and length stand in front of the content. The object is named by the digest of
all this. -/
def encode (object : Object) : Bytes :=
  Bytes.ofString object.kind.word ++ Bytes.ofString " " ++
    (Decimal.ofNat object.content.length).utf8 ++ 0 :: object.content

def headerLimit : Nat :=
  64

def lengthLimit : Nat :=
  4194304

/-- Content of a stated length. What is missing at its end counts as zeros. -/
def filled? (length : Nat) (content : Bytes) : Option Bytes :=
  if content.length = length then some content
  else if content.length < length && length ≤ lengthLimit then
    some (content ++ List.replicate (length - content.length) 0)
  else none

/-- Reads more than is ever written: the word may go on behind the kind, and the length may
have blanks before it and anything behind. -/
def decode? (bytes : Bytes) : Option Object := do
  let (word, rest) ← Pieces.cut (· == 0x20) bytes
  let (stated, content) ← Pieces.cut (· == 0) rest
  if headerLimit ≤ word.length + 1 + stated.length then none
  else
    let kind ← Kind.ofStart? word
    let length ← Decimal.leading? stated
    if length < 0 then none
    else some ⟨kind, ← filled? length.toInt.toNat content⟩

/-- The rest of a length in binary, seven bits in a byte and the lowest first. The top bit of
a byte tells whether another follows. -/
def longer? (shift : Nat) (goesOn : Bool) (bytes : Bytes) : Option (Nat × Bytes) :=
  match goesOn, bytes with
  | false, bytes => some (0, bytes)
  | true, [] => none
  | true, b :: rest =>
      -- Lengths are words of 64 bits.
      if 64 ≤ shift then none
      else do
        let (higher, rest) ← longer? (shift + 7) (b &&& 0x80 != 0) rest
        some (((b &&& 0x7F).toNat <<< shift) + higher, rest)

/-- The older form of a file: kind and length in binary, and only the content compressed. -/
def ofOlderFile? (file : Bytes) : Option Object := do
  let b ← file.head?
  let kind ← Kind.ofNumber? ((b >>> 4) &&& 7).toNat
  let (higher, rest) ← longer? 4 (b &&& 0x80 != 0) file.tail
  let length := ((b &&& 0x0F).toNat + higher) % UInt64.size
  let content ← Zlib.decompress rest
  if content.length < length then none else some ⟨kind, content.take length⟩

def ofFile? (id : ObjectId) (file : Bytes) : Option Object := do
  let object ← if Zlib.isBegun file then (Zlib.decompress file).bind decode?
    else ofOlderFile? file
  if Sha1.digest object.encode = id.bytes then some object else none

def idLine? (word : String) (text : Bytes) : Option (ObjectId × Bytes) :=
  match Pieces.cut Bytes.isNewline text with
  | none => none
  | some (line, rest) =>
      match (Bytes.after? (Bytes.ofString word) line).map (ObjectId.ofHex .sha1) with
      | some (.ok id) => some (id, rest)
      | _ => none

theorem length_of_idLine? {word : String} {text rest : Bytes} {id : ObjectId}
    (found : idLine? word text = some (id, rest)) : rest.length < text.length := by
  unfold idLine? at found
  split at found
  · cases found
  next cut =>
    split at found
    · cases found
      exact Pieces.length_of_cut cut
    · cases found

end Object

end CommitLanes.Repository
