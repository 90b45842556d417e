import CommitLanes.Text

/-! Values of a TOML document, and tables under construction.

A table can come about in four ways, and that decides what may still be added to it: no
table is given twice, and none is given partly by headers and partly by dotted keys.
-/

set_option autoImplicit false

namespace CommitLanes.Toml

inductive Origin where
  /-- By a header of its own, or as the whole document. -/
  | header
  /-- Named on the way in the header of another table. -/
  | implied
  /-- Named on the way in a dotted key. -/
  | dotted
  /-- Written out as a value. -/
  | braced
  deriving DecidableEq, Repr

/-- Fractions and moments are recognised, but what they say is not kept: no setting takes
one. -/
inductive Value where
  | text (text : Text)
  | integer (n : Int)
  | fraction
  | boolean (b : Bool)
  | moment
  | array (items : List Value)
  | table (origin : Origin) (entries : List (Text × Value))
  | tables (elements : List (List (Text × Value)))

abbrev Entries := List (Text × Value)

namespace Entries

def get? (entries : Entries) (key : Text) : Option Value :=
  (entries.find? fun entry => entry.1 = key).map (·.2)

def set (entries : Entries) (key : Text) (value : Value) : Entries :=
  if (entries.get? key).isSome then
    entries.map fun entry => if entry.1 = key then (key, value) else entry
  else entries ++ [(key, value)]

def passable (dotted : Bool) : Origin → Bool
  | .header => !dotted
  | .implied | .dotted => true
  | .braced => false

/-- Changes the entries at the end of a path. Tables that are missing on the way are
made; of tables in a row the path leads through the last. -/
def within (dotted : Bool) (change : Origin → Entries → Option Entries) (origin : Origin) :
    List Text → Entries → Option Entries
  | [], entries => change origin entries
  | key :: path, entries =>
      match entries.get? key with
      | none => do
          let made : Origin := if dotted then .dotted else .implied
          let inner ← within dotted change made path []
          some (entries.set key (.table made inner))
      | some (.table found inner) =>
          if passable dotted found then do
            let inner ← within dotted change found path inner
            some (entries.set key (.table found inner))
          else none
      | some (.tables elements) => do
          let last ← elements.getLast?
          let last ← within dotted change .header path last
          some (entries.set key (.tables (elements.dropLast ++ [last])))
      | some _ => none

/-- Adds a value under a key with the path in front of it. A dotted key reaches only
tables that dotted keys have made. -/
def insert (entries : Entries) (path : List Text) (key : Text) (value : Value) : Option Entries :=
  within true (fun origin entries =>
    if !path.isEmpty && origin ≠ .dotted then none
    else if (entries.get? key).isSome then none
    else some (entries.set key value)) .header path entries

/-- Opens a table by its header. One that was only named on the way may get its header
later. -/
def openTable (entries : Entries) (path : List Text) (key : Text) : Option Entries :=
  within false (fun _ entries =>
    match entries.get? key with
    | none => some (entries.set key (.table .header []))
    | some (.table .implied inner) => some (entries.set key (.table .header inner))
    | some _ => none) .header path entries

/-- Opens one more table of those under the key. -/
def openNext (entries : Entries) (path : List Text) (key : Text) : Option Entries :=
  within false (fun _ entries =>
    match entries.get? key with
    | none => some (entries.set key (.tables [[]]))
    | some (.tables elements) => some (entries.set key (.tables (elements ++ [[]])))
    | some _ => none) .header path entries

end Entries

end CommitLanes.Toml
