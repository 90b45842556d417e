import CommitLanes.ObjectId
import CommitLanes.Ordered

/-! One file with many references: on each line an id and a name, and below a tag perhaps a
line with what the tag stands for.

The first line may promise that the names are in order. Then a single name is searched for
by halves, which finds it or not whatever the rest of the file looks like.
-/

set_option autoImplicit false

namespace CommitLanes.Repository.Packed

def digits : Nat :=
  HashFunction.sha1.hexLength

def ofLine? (line : Bytes) : Option (Bytes × ObjectId) :=
  let name := line.drop (digits + 1)
  match ObjectId.ofHex .sha1 (line.take digits) with
  | .error _ => none
  | .ok id =>
      if (line.drop digits).head? = some 0x20 then
        some (if name.getLast? = some 0x0D then name.dropLast else name, id)
      else none

def caret : UInt8 := 0x5E

def isPeeled (line : Bytes) : Bool :=
  line.head? = some caret

def isPeeledId (line : Bytes) : Bool :=
  match ObjectId.ofHex .sha1 ((line.drop 1).take digits) with
  | .ok _ => true
  | .error _ => false

def isNote (line : Bytes) : Bool :=
  line.head? = some 0x23

section Listing

/-- The pieces between newlines; what stands behind the last newline is no line. -/
def entries : List Bytes → Option (List (Bytes × ObjectId))
  | [] => some []
  | [last] => if last.isEmpty then some [] else none
  | [line, last] => do
      let entry ← ofLine? line
      if last.isEmpty || (isPeeledId last && last.length = digits + 1 && isPeeled last) then
        some [entry]
      else none
  | line :: next :: rest => do
      let entry ← ofLine? line
      if isPeeled next then
        if isPeeledId next then (entries rest).map (entry :: ·) else none
      else (entries (next :: rest)).map (entry :: ·)

/-- All references in the order of their names, unless the file is damaged. Of several with
one name the last counts. -/
def read? (content : Bytes) : Option (List (Bytes × ObjectId)) :=
  if content.contains 0 then none
  else match (Pieces.split Bytes.isNewline content).dropWhile isNote with
    | [] => none
    | lines => (entries lines).map fun found =>
        let sorted := Ordered.sort (fun a b => compare a.1 b.1) found
        (Ordered.distinct (sorted.map (·.1))).filterMap fun name =>
          sorted.reverse.find? fun entry => entry.1 = name

end Listing

section Search

/-- The first line promises names in order. -/
def isSorted (content : Bytes) : Bool :=
  match Pieces.cut Bytes.isNewline content with
  | none => false
  | some (line, _) =>
      match Bytes.after? (Bytes.ofString "# pack-refs with:") line with
      | none => false
      | some traits => Bytes.hasWithin (Bytes.ofString " sorted ") traits

def withoutNotes? (content : Bytes) : Option Bytes :=
  if isNote content then
    match _ : Pieces.cut Bytes.isNewline content with
    | none => none
    | some (_, rest) => withoutNotes? rest
  else some content
  termination_by content.length
  decreasing_by exact Pieces.length_of_cut (by assumption)

/-- A newline ends a record, unless a peeled id follows. -/
def endsAt (body : Array UInt8) (place : Nat) : Bool :=
  body[place]? = some Bytes.newline && body[place + 1]? ≠ some caret

/-- Where the record begins that holds a place, not before `low`. -/
def recordStart (body : Array UInt8) (low : Nat) : Nat → Nat
  | 0 => 0
  | place + 1 =>
      if place + 1 ≤ low || endsAt body place then place + 1 else recordStart body low place

def recordEnd (body : Array UInt8) (high place : Nat) : Nat :=
  if place + 1 < high then
    if endsAt body place then place + 1 else recordEnd body high (place + 1)
  else place + 1
  termination_by high - place

theorem recordStart_le (body : Array UInt8) (low place : Nat) :
    recordStart body low place ≤ place := by
  induction place with
  | zero => exact Nat.le_refl 0
  | succ place ih =>
    unfold recordStart
    split
    · exact Nat.le_refl _
    · exact Nat.le_succ_of_le ih

theorem lt_recordEnd (body : Array UInt8) (high place : Nat) : place < recordEnd body high place := by
  fun_induction recordEnd body high place with
  | case1 => exact Nat.lt_succ_self _
  | case2 _ _ _ ih => exact Nat.lt_of_succ_lt ih
  | case3 => exact Nat.lt_succ_self _

/-- How the name in a record compares with a given one. What is too short for a record comes
before all names. -/
def compareName (record name : Bytes) : Ordering :=
  if record.length < digits + 3 then .lt
  else compare ((record.drop (digits + 1)).takeWhile fun b => !Bytes.isNewline b) name

def idOf? (record : Bytes) : Option ObjectId :=
  match ObjectId.ofHex .sha1 (record.take digits) with
  | .error _ => none
  | .ok id =>
      match Pieces.cut Bytes.isNewline (record.drop (digits + 1)) with
      | none => none
      | some (_, rest) => if isPeeled rest && !isPeeledId rest then none else some id

def searchFrom (body : Array UInt8) (name : Bytes) (low high : Nat) : Option ObjectId :=
  if low < high then
    let middle := low + (high - low) / 2
    let start := recordStart body low middle
    let record := body.toList.drop start
    match compareName record name with
    | .lt => searchFrom body name (recordEnd body high middle) high
    | .gt => searchFrom body name low start
    | .eq => idOf? record
  else none
  termination_by high - low
  decreasing_by
    · have := lt_recordEnd body high (low + (high - low) / 2)
      omega
    · have := recordStart_le body low (low + (high - low) / 2)
      omega

def search? (content name : Bytes) : Option ObjectId := do
  let body := (← withoutNotes? content).toArray
  searchFrom body name 0 body.size

end Search

end CommitLanes.Repository.Packed
