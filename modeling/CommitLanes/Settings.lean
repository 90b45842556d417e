import CommitLanes.Log.Decoder

/-! The settings of one pass over a log. -/

set_option autoImplicit false

namespace CommitLanes

structure Settings where
  defaultEncoding : Text
  hash : HashFunction
  poolCapacity : Nat
  poolLongest : Nat
  /-- Rows that may wait between the one who lays out and the one who shows. -/
  channelCapacity : Nat
  artificialCommits : Bool
  /-- How many ids are remembered to notice repeats; all of them without a limit. -/
  seenWindow : Option Nat
  deriving DecidableEq

namespace Settings

def standard : Settings where
  defaultEncoding := "utf-8".toList
  hash := .sha1
  poolCapacity := 4096
  poolLongest := 256
  channelCapacity := 1
  artificialCommits := false
  seenWindow := none

inductive Fault where
  | unreadable (cause : String)
  | invalid
  | unknownEncoding (label : Text)
  deriving DecidableEq, Repr

def Fault.message : Fault → String
  | .unreadable cause => "failed to read config: " ++ cause
  | .invalid => "invalid config"
  | .unknownEncoding label => "unknown text encoding `" ++ String.ofList label ++ "`"

def encoding (settings : Settings) : Except Fault Encoding :=
  match Encoding.ofLabel? settings.defaultEncoding.utf8 with
  | some encoding => .ok encoding
  | none => .error (.unknownEncoding settings.defaultEncoding)

def decoder (settings : Settings) : Except Fault Log.Decoder := do
  let encoding ← settings.encoding
  return ⟨settings.hash, encoding, .empty settings.poolCapacity settings.poolLongest⟩

end Settings

end CommitLanes
