import CommitLanes.Bytes

/-! The compressed format DEFLATE: blocks of symbols in prefix codes, where a symbol is a
byte, the end of the block, or a copy of what was given before. -/

set_option autoImplicit false

namespace CommitLanes.Deflate

/-- Bits yet to be read: those left of the byte that was begun, and the bytes behind it. -/
structure Bits where
  begun : List Bool
  rest : Bytes

namespace Bits

def ofByte (byte : UInt8) : List Bool :=
  (List.range 8).map fun place => byte.toNat.testBit place

def ofBytes (bytes : Bytes) : Bits :=
  ⟨[], bytes⟩

def next? (bits : Bits) : Option (Bool × Bits) :=
  match bits.begun with
  | bit :: begun => some (bit, { bits with begun })
  | [] =>
      match bits.rest with
      | [] => none
      | byte :: rest =>
          match ofByte byte with
          | bit :: begun => some (bit, ⟨begun, rest⟩)
          | [] => none

def number? : Nat → Bits → Option (Nat × Bits)
  | 0, bits => some (0, bits)
  | count + 1, bits => do
      let (bit, bits) ← bits.next?
      let (high, bits) ← number? count bits
      some (bit.toNat + 2 * high, bits)

def aligned (bits : Bits) : Bytes :=
  bits.rest

def size (bits : Bits) : Nat :=
  bits.begun.length + 8 * bits.rest.length

end Bits

/-- A prefix code in canonical form: how many codes there are of each length from one on,
and the symbols in the order of their codes. -/
structure Code where
  counts : List Nat
  symbols : Array Nat

namespace Code

/-- The code in which the symbol `n` has a code of the `n`-th length; zero stands for a
symbol that does not occur. -/
def ofLengths (lengths : List Nat) : Code :=
  let sized := lengths.zipIdx
  let ofLength (length : Nat) : List Nat :=
    (sized.filter fun entry => entry.1 = length).map (·.2)
  let byLength := (List.range 15).map fun shorter => ofLength (shorter + 1)
  ⟨byLength.map List.length, byLength.flatten.toArray⟩

/-- How much room the codes leave, counted in codes of the greatest length. Each further bit
doubles the room. Nothing if there are more codes than room for them. -/
def room? : List Nat → Nat → Option Nat
  | [], room => some room
  | count :: counts, room => if 2 * room < count then none else room? counts (2 * room - count)

def isFull (code : Code) : Bool :=
  room? code.counts 1 = some 0

def isLone (code : Code) : Bool :=
  code.counts.head? = some 1 && code.symbols.size = 1

def isEmpty (code : Code) : Bool :=
  code.symbols.isEmpty

/-- Reads bit by bit until what was read is a code. `first` is the lowest code of the
present length and `place` the place of its symbol. -/
def walk (symbols : Array Nat) : List Nat → Nat → Nat → Nat → Bits → Option (Nat × Bits)
  | [], _, _, _, _ => none
  | count :: counts, read, first, place, bits => do
      let (bit, bits) ← bits.next?
      let read := 2 * read + bit.toNat
      -- Codes of one length are numbered in a row, above the shorter ones continued by zeros.
      if read < first + count then do
        let symbol ← symbols[place + (read - first)]?
        some (symbol, bits)
      else walk symbols counts read (2 * (first + count)) (place + count) bits

def next? (code : Code) (bits : Bits) : Option (Nat × Bits) :=
  walk code.symbols code.counts 0 0 0 bits

end Code

/-- The least value of each class of numbers, and how many bits are added to it. -/
abbrev Classes := List (Nat × Nat)

def copyLengths : Classes :=
  [(3, 0), (4, 0), (5, 0), (6, 0), (7, 0), (8, 0), (9, 0), (10, 0), (11, 1), (13, 1), (15, 1),
    (17, 1), (19, 2), (23, 2), (27, 2), (31, 2), (35, 3), (43, 3), (51, 3), (59, 3), (67, 4),
    (83, 4), (99, 4), (115, 4), (131, 5), (163, 5), (195, 5), (227, 5), (258, 0)]

def copyDistances : Classes :=
  [(1, 0), (2, 0), (3, 0), (4, 0), (5, 1), (7, 1), (9, 2), (13, 2), (17, 3), (25, 3), (33, 4),
    (49, 4), (65, 5), (97, 5), (129, 6), (193, 6), (257, 7), (385, 7), (513, 8), (769, 8),
    (1025, 9), (1537, 9), (2049, 10), (3073, 10), (4097, 11), (6145, 11), (8193, 12),
    (12289, 12), (16385, 13), (24577, 13)]

def Classes.read? (classes : Classes) (symbol : Nat) (bits : Bits) : Option (Nat × Bits) := do
  let (least, count) ← classes[symbol]?
  let (more, bits) ← bits.number? count
  some (least + more, bits)

/-- Repeats `length` bytes, the first of them `distance` bytes back. The copy may run into
what it has written itself. -/
def copy (distance : Nat) : Nat → Array UInt8 → Array UInt8
  | 0, out => out
  | length + 1, out => copy distance length (out.push (out.getD (out.size - distance) 0))

structure Codes where
  literals : Code
  distances : Code

def symbols (codes : Codes) : Nat → Array UInt8 → Bits → Option (Array UInt8 × Bits)
  | 0, _, _ => none
  | fuel + 1, out, bits => do
      let (symbol, bits) ← codes.literals.next? bits
      if symbol < 256 then symbols codes fuel (out.push (UInt8.ofNat symbol)) bits
      else if symbol = 256 then some (out, bits)
      else
        let (length, bits) ← copyLengths.read? (symbol - 257) bits
        let (symbol, bits) ← codes.distances.next? bits
        let (distance, bits) ← copyDistances.read? symbol bits
        -- Nothing was given yet that lies so far back.
        if out.size < distance then none
        else symbols codes fuel (copy distance length out) bits

def fixedCodes : Codes where
  literals := .ofLengths (List.replicate 144 8 ++ List.replicate 112 9 ++ List.replicate 24 7 ++
    List.replicate 8 8)
  distances := .ofLengths (List.replicate 30 5)

def lengthOrder : List Nat :=
  [16, 17, 18, 0, 8, 7, 9, 6, 10, 5, 11, 4, 12, 3, 13, 2, 14, 1, 15]

def numbers? (width : Nat) : Nat → Bits → Option (List Nat × Bits)
  | 0, bits => some ([], bits)
  | count + 1, bits => do
      let (n, bits) ← bits.number? width
      let (others, bits) ← numbers? width count bits
      some (n :: others, bits)

/-- Code lengths up to a total of `wanted`, with runs of the last one and of zeros. The
latest stands first. -/
def lengths (code : Code) (wanted : Nat) : Nat → List Nat → Bits → Option (List Nat × Bits)
  | 0, _, _ => none
  | fuel + 1, known, bits =>
      if wanted ≤ known.length then
        if known.length = wanted then some (known, bits) else none
      else do
        let (symbol, bits) ← code.next? bits
        if symbol < 16 then lengths code wanted fuel (symbol :: known) bits
        else
          let (value, least, width) ← match symbol, known with
            | 16, last :: _ => some (last, 3, 2)
            | 17, _ => some (0, 3, 3)
            | 18, _ => some (0, 11, 7)
            | _, _ => none
          let (more, bits) ← bits.number? width
          lengths code wanted fuel (List.replicate (least + more) value ++ known) bits

/-- The codes of a block from their lengths. No code may leave room unused but one of a
single bit, and the end of the block needs a code. There may be no distances at all. -/
def codesOf? (literals distances : List Nat) : Option Codes :=
  let codes : Codes := ⟨.ofLengths literals, .ofLengths distances⟩
  if (codes.literals.isFull || codes.literals.isLone) && 0 < literals.getD 256 0 &&
      (codes.distances.isFull || codes.distances.isLone || codes.distances.isEmpty) then some codes
  else none

def lengthCode? (given : List Nat) : Option Code :=
  let sized := lengthOrder.zip given
  let code := Code.ofLengths ((List.range 19).map fun symbol => (sized.lookup symbol).getD 0)
  if code.isFull then some code else none

def dynamicCodes (bits : Bits) : Option (Codes × Bits) := do
  let (literals, bits) ← bits.number? 5
  let (distances, bits) ← bits.number? 5
  let (count, bits) ← bits.number? 4
  let literals := literals + 257
  let distances := distances + 1
  -- The last numbers of both kinds stand for nothing.
  if 286 < literals || 30 < distances then none
  else
    let (given, bits) ← numbers? 3 (count + 4) bits
    let wanted := literals + distances
    let (known, bits) ← lengths (← lengthCode? given) wanted (wanted + 1) [] bits
    let all := known.reverse
    some (← codesOf? (all.take literals) (all.drop literals), bits)

/-- Bytes that stand as they are, behind their number and its complement. -/
def stored (out : Array UInt8) (bits : Bits) : Option (Array UInt8 × Bits) :=
  match bits.aligned with
  | low :: high :: complementLow :: complementHigh :: rest =>
      let count := low.toNat + 256 * high.toNat
      if complementLow = ~~~low && complementHigh = ~~~high && count ≤ rest.length then
        some (out ++ rest.take count, .ofBytes (rest.drop count))
      else none
  | _ => none

def block (out : Array UInt8) (bits : Bits) : Option (Array UInt8 × Bits) := do
  let (form, bits) ← bits.number? 2
  match form with
  | 0 => stored out bits
  | 1 => symbols fixedCodes (bits.size + 1) out bits
  | 2 => do
      let (codes, bits) ← dynamicCodes bits
      symbols codes (bits.size + 1) out bits
  | _ => none

def blocks : Nat → Array UInt8 → Bits → Option (Array UInt8 × Bits)
  | 0, _, _ => none
  | fuel + 1, out, bits => do
      let (last, bits) ← bits.next?
      let (out, bits) ← block out bits
      if last then some (out, bits) else blocks fuel out bits

def inflate (bytes : Bytes) : Option (Bytes × Bytes) :=
  (blocks (8 * bytes.length + 1) #[] (.ofBytes bytes)).map fun (out, bits) =>
    (out.toList, bits.aligned)

end CommitLanes.Deflate
