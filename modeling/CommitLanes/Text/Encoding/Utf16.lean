import CommitLanes.Text.Encoding.Basic

/-! UTF-16 in both byte orders. A surrogate without its partner is malformed, and what
breaks off at the end is one malformed place. -/

set_option autoImplicit false

namespace CommitLanes.Encoding

inductive ByteOrder where
  | big
  | little
  deriving DecidableEq, Repr

def ByteOrder.unit (order : ByteOrder) (first second : UInt8) : Nat :=
  match order with
  | .big => first.toNat * 256 + second.toNat
  | .little => second.toNat * 256 + first.toNat

def isLeading (unit : Nat) : Bool :=
  0xD800 ≤ unit && unit < 0xDC00

def isTrailing (unit : Nat) : Bool :=
  0xDC00 ≤ unit && unit < 0xE000

def readUtf16 (order : ByteOrder) (b : UInt8) (rest : Bytes) : Reading :=
  match rest with
  | [] => .malformed 0
  | second :: rest =>
      let unit := order.unit b second
      if isTrailing unit then .malformed 1
      else if isLeading unit then
        match rest with
        | [] => .malformed 1
        | [_] => .malformed 2
        | third :: fourth :: _ =>
            let partner := order.unit third fourth
            if isTrailing partner then
              .code (0x10000 + (unit - 0xD800) * 0x400 + (partner - 0xDC00)) 3
            else .malformed 1
      else .code unit 1

end CommitLanes.Encoding
