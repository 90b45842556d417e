import CommitLanes.Deflate

/-! The container zlib: two bytes in front of the compressed data and a checksum behind. -/

set_option autoImplicit false

namespace CommitLanes.Zlib

/-- The checksum Adler-32. -/
def checksum (bytes : Bytes) : Nat :=
  let (low, high) := bytes.foldl (fun (sums : Nat × Nat) byte =>
    let low := (sums.1 + byte.toNat) % 65521
    (low, (sums.2 + low) % 65521)) (1, 0)
  high * 65536 + low

/-- The method is DEFLATE and the two bytes are a multiple of thirty-one. -/
def isHeader (method flags : UInt8) : Bool :=
  -- The top bit of the first byte would ask for too large a window.
  method &&& 0x8F == 0x08 && (method.toNat * 256 + flags.toNat) % 31 = 0

def isBegun : Bytes → Bool
  | method :: flags :: _ => isHeader method flags
  | _ => false

/-- No dictionary may be asked for, and nothing may stand behind the checksum. -/
def decompress (bytes : Bytes) : Option Bytes :=
  match bytes with
  | method :: flags :: rest =>
      if isHeader method flags && flags &&& 0x20 == 0 then do
        let (data, trailer) ← Deflate.inflate rest
        let stated := trailer.foldl (fun sum byte => sum * 256 + byte.toNat) 0
        if trailer.length = 4 && stated = checksum data then some data else none
      else none
  | _ => none

end CommitLanes.Zlib
