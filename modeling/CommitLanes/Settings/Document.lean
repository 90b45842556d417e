import CommitLanes.FileTree
import CommitLanes.Settings
import CommitLanes.Text.Utf8
import CommitLanes.Toml.Document

/-! Settings from a TOML document. What the document does not set keeps its standard
value, and what is no setting is passed over. -/

set_option autoImplicit false

namespace CommitLanes.Settings

open Toml (Value Entries)

def textOf? : Value → Option Text
  | .text text => some text
  | _ => none

/-- Counts are whole numbers from zero on. -/
def countOf? : Value → Option Nat
  | .integer n => if 0 ≤ n then some n.toNat else none
  | _ => none

def booleanOf? : Value → Option Bool
  | .boolean b => some b
  | _ => none

def hashNamed? (name : Text) : Option HashFunction :=
  if name = "sha1".toList then some .sha1
  else if name = "sha256".toList then some .sha256
  else none

/-- A hash function is named by a text, or by the only key of a table whose value holds
nothing. -/
def hashOf? : Value → Option HashFunction
  | .text name => hashNamed? name
  | .table _ [(name, .table _ [])] => hashNamed? name
  | .table _ [(name, .array [])] => hashNamed? name
  | _ => none

def setting {α : Type} (entries : Entries) (key : String) (read : Value → Option α) (standard : α) :
    Option α :=
  match entries.get? key.toList with
  | none => some standard
  | some value => read value

def ofEntries? (entries : Entries) : Option Settings := do
  return {
    defaultEncoding := ← setting entries "default_encoding" textOf? standard.defaultEncoding
    hash := ← setting entries "hash_kind" hashOf? standard.hash
    poolCapacity := ← setting entries "intern_capacity" countOf? standard.poolCapacity
    poolLongest := ← setting entries "intern_max_len" countOf? standard.poolLongest
    channelCapacity := ← setting entries "channel_capacity" countOf? standard.channelCapacity
    artificialCommits := ← setting entries "artificial_commits" booleanOf? standard.artificialCommits
    seenWindow := ← setting entries "seen_window" (fun v => (countOf? v).map some) standard.seenWindow }

/-- The encoding is looked up at once, so that settings in hand can always decode. -/
def ofDocument (document : Text) : Except Fault Settings := do
  match (Toml.read document).bind ofEntries? with
  | none => throw .invalid
  | some settings =>
      let _ ← settings.encoding
      return settings

def ofFile (content : Except FileTree.Fault Bytes) : Except Fault Settings :=
  match content with
  | .error fault => .error (.unreadable fault.message)
  | .ok bytes =>
      match Utf8.decode? bytes with
      | none => .error (.unreadable "stream did not contain valid UTF-8")
      | some document => ofDocument document

end CommitLanes.Settings
