import CommitLanes.Bytes

/-! The digest SHA-1 of a byte string. -/

set_option autoImplicit false

namespace CommitLanes.Sha1

structure State where
  a : UInt32
  b : UInt32
  c : UInt32
  d : UInt32
  e : UInt32

def initial : State :=
  ⟨0x67452301, 0xEFCDAB89, 0x98BADCFE, 0x10325476, 0xC3D2E1F0⟩

/-- Turns the word left; `n` lies between one and thirty-one. -/
def rotate (n : UInt32) (word : UInt32) : UInt32 :=
  (word <<< n) ||| (word >>> (32 - n))

def bigEndian (count : Nat) (n : Nat) : Bytes :=
  (List.range count).reverse.map fun place => UInt8.ofNat (n >>> (8 * place))

/-- The message with a mark behind it, zeros up to eight bytes before the end of a block,
and its length in bits. -/
def pad (message : Bytes) : Bytes :=
  message ++ 0x80 :: List.replicate ((119 - message.length % 64) % 64) 0 ++
    bigEndian 8 (message.length * 8)

def word (bytes : Bytes) : UInt32 :=
  bytes.foldl (fun word byte => (word <<< 8) ||| byte.toUInt32) 0

def groups (size : Nat) : Nat → Bytes → List Bytes
  | 0, _ => []
  | count + 1, bytes => bytes.take size :: groups size count (bytes.drop size)

/-- The words of a block continued by `count` more. The latest stands first. -/
def schedule : Nat → List UInt32 → List UInt32
  | 0, words => words
  | count + 1, words =>
      schedule count (rotate 1 (words.getD 2 0 ^^^ words.getD 7 0 ^^^ words.getD 13 0 ^^^
        words.getD 15 0) :: words)

def mix (n : Nat) (b c d : UInt32) : UInt32 × UInt32 :=
  if n < 20 then ((b &&& c) ||| (~~~b &&& d), 0x5A827999)
  else if n < 40 then (b ^^^ c ^^^ d, 0x6ED9EBA1)
  else if n < 60 then ((b &&& c) ||| (b &&& d) ||| (c &&& d), 0x8F1BBCDC)
  else (b ^^^ c ^^^ d, 0xCA62C1D6)

def round (state : State) (n : Nat) (word : UInt32) : State :=
  let (mixed, constant) := mix n state.b state.c state.d
  ⟨rotate 5 state.a + mixed + state.e + constant + word, state.a, rotate 30 state.b, state.c,
    state.d⟩

def rounds (state : State) : Nat → List UInt32 → State
  | _, [] => state
  | n, word :: words => rounds (round state n word) (n + 1) words

def block (state : State) (bytes : Bytes) : State :=
  let words := (groups 4 16 bytes).map word
  let mixed := rounds state 0 (schedule 64 words.reverse).reverse
  ⟨state.a + mixed.a, state.b + mixed.b, state.c + mixed.c, state.d + mixed.d, state.e + mixed.e⟩

def digest (message : Bytes) : Bytes :=
  let padded := pad message
  let state := (groups 64 (padded.length / 64) padded).foldl block initial
  [state.a, state.b, state.c, state.d, state.e].flatMap fun word => bigEndian 4 word.toNat

end CommitLanes.Sha1
