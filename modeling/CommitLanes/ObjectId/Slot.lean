import CommitLanes.ObjectId

/-! Ids as they are kept: a field with room for the longest digest, and how many of its bytes count. -/

set_option autoImplicit false

namespace CommitLanes.ObjectId

structure Slot where
  field : Vector UInt8 32
  used : UInt8
  deriving DecidableEq

namespace Slot

def zeros : Vector UInt8 32 :=
  Vector.replicate 32 0

def write (field : Vector UInt8 32) (bytes : Bytes) : Vector UInt8 32 :=
  field.mapIdx fun place old => bytes[place]?.getD old

def keep (digest : Bytes) : Slot :=
  ⟨write zeros digest, UInt8.ofNat digest.length⟩

def ofBytes? (bytes : Bytes) : Option Slot :=
  if bytes.length ≠ HashFunction.sha1.byteLength ∧ bytes.length ≠ HashFunction.sha256.byteLength then none
  else some (keep bytes)

/-- How much of the field is used is told by the kind of digest and not by what was read. -/
def ofHex (hash : HashFunction) (digits : Bytes) : Except Fault Slot :=
  if digits.length ≠ hash.hexLength then .error (.length hash.hexLength digits.length)
  else match Hex.decode digits with
    | none => .error .digit
    | some bytes => .ok ⟨write zeros bytes, UInt8.ofNat hash.byteLength⟩

def ofText (text : Text) : Except Fault Slot :=
  ofHex (if text.size = HashFunction.sha256.hexLength then .sha256 else .sha1) text.utf8

def ofDigest (digest : Vector UInt8 20) : Slot :=
  keep digest.toList

def reserved (fill : UInt8) : Slot :=
  ⟨write zeros (List.replicate HashFunction.sha1.byteLength fill), UInt8.ofNat HashFunction.sha1.byteLength⟩

def bytes (slot : Slot) : Bytes :=
  slot.field.toList.take slot.used.toNat

def hex (slot : Slot) : Text :=
  Hex.encode slot.bytes

def order (a b : Slot) : Ordering :=
  (compare a.field.toList b.field.toList).then (compare a.used b.used)

end Slot

def slot (id : ObjectId) : Slot :=
  .keep id.bytes

end CommitLanes.ObjectId
