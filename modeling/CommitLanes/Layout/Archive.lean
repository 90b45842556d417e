import CommitLanes.Layout.Row

/-! Rows kept for later, by number and by commit.

The first row of each commit is noted when it is stored, so that a commit is found
without going through the rows.
-/

set_option autoImplicit false

namespace CommitLanes.Layout

structure Archive where
  rows : List Row
  /-- For every commit stored, the place of its first row. -/
  places : List (ObjectId × Nat)

namespace Archive

def empty : Archive :=
  ⟨[], []⟩

def size (archive : Archive) : Nat :=
  archive.rows.length

def isEmpty (archive : Archive) : Bool :=
  archive.rows.isEmpty

def indexOf? (archive : Archive) (id : ObjectId) : Option Nat :=
  (archive.places.find? fun place => place.1 = id).map (·.2)

def insert (archive : Archive) (row : Row) : Nat × Archive :=
  let place := archive.size
  (place,
    { rows := archive.rows ++ [row]
      places :=
        if (archive.indexOf? row.node.id).isSome then archive.places
        else archive.places ++ [(row.node.id, place)] })

def insertAll (archive : Archive) (rows : List Row) : Archive :=
  rows.foldl (fun archive row => (archive.insert row).2) archive

def get? (archive : Archive) (place : Nat) : Option Row :=
  archive.rows[place]?

def find? (archive : Archive) (id : ObjectId) : Option Row :=
  (archive.indexOf? id).bind archive.get?

def range (archive : Archive) (start stop : Nat) : List Row :=
  let stop := min stop archive.size
  let start := min start stop
  (archive.rows.drop start).take (stop - start)

/-- A piece of a list, for one for whom bounds in the wrong order, or beyond the list, put an end
to everything. -/
def slice? (rows : List Row) (start stop : Nat) : Option (List Row) :=
  if start ≤ stop ∧ stop ≤ rows.length then some ((rows.drop start).take (stop - start)) else none

def range? (archive : Archive) (start stop : Nat) : Option (List Row) :=
  let stop := min stop archive.size
  slice? archive.rows (min start stop) stop

def maxWidth (archive : Archive) : Nat :=
  archive.rows.foldl (fun widest row => max widest row.width) 0

def clear (_ : Archive) : Archive :=
  empty

inductive Change where
  | insert (row : Row)
  | extend (rows : List Row)
  | clear

def change (archive : Archive) : Change → Archive
  | .insert row => (archive.insert row).2
  | .extend rows => archive.insertAll rows
  | .clear => archive.clear

def changeAll (archive : Archive) (history : List Change) : Archive :=
  history.foldl change archive

end Archive

end CommitLanes.Layout
