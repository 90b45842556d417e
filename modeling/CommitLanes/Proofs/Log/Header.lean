import CommitLanes.Log.Record
import CommitLanes.Proofs.ObjectId.Digits
import CommitLanes.Proofs.Pieces.Shape
import Mathlib.Data.List.Forall2

/-! The header line, told without reading it.

Every line either has the shape of a header or is refused for one reason, the first from the left.
Reading answers both as the shape says.
-/

set_option autoImplicit false

namespace CommitLanes

theorem Bytes.trimStart_gap {gap rest : Bytes} (blank : ∀ b ∈ gap, isBlank b = true)
    (stops : ∀ b ∈ rest.head?, isBlank b = false) : trimStart (gap ++ rest) = rest := by
  rw [trimStart, List.dropWhile_append_of_pos blank]
  cases rest with
  | nil => rfl
  | cons b rest => exact List.dropWhile_cons_of_neg (by simp [stops b rfl])

namespace Log

structure Header where
  first : Bytes
  gap : Bytes
  second : Bytes
  rest : Bytes

namespace Header

def bytes (header : Header) : Bytes :=
  header.first ++ (header.gap ++ (header.second ++ header.rest))

/-- The two ids are in order. Nothing need stand between them. -/
structure Begun (hash : HashFunction) (header : Header) : Prop where
  id : ObjectId.Digits hash header.first
  gap : ∀ b ∈ header.gap, Bytes.isBlank b = true
  tree : ObjectId.Digits hash header.second

/-- What follows are ids as well. The first of them may follow the second id without a blank. -/
structure WellFormed (hash : HashFunction) (header : Header) : Prop extends Begun hash header where
  parents : ∃ words, Pieces.Runs Bytes.isBlank header.rest words ∧ ∀ word ∈ words, ObjectId.Digits hash word

structure Tells (header : Header) (id tree : ObjectId) (parents : List ObjectId) : Prop where
  id : ObjectId.Spells header.first id
  tree : ObjectId.Spells header.second tree
  parents : ∃ words, Pieces.Runs Bytes.isBlank header.rest words ∧ List.Forall₂ ObjectId.Spells words parents

/-- Why a line is no header. An id is cut off by its width, or where the line ends before. -/
inductive Refused (hash : HashFunction) : Bytes → Reason → Prop
  | commitId {line : Bytes} {fault : ObjectId.Fault}
      (refused : ObjectId.Refused hash (line.take hash.hexLength) fault) : Refused hash line (.commitId fault)
  | treeId {first gap rest : Bytes} {fault : ObjectId.Fault} (id : ObjectId.Digits hash first)
      (blank : ∀ b ∈ gap, Bytes.isBlank b = true) (stops : ∀ b ∈ rest.head?, Bytes.isBlank b = false)
      (refused : ObjectId.Refused hash (rest.take hash.hexLength) fault) :
      Refused hash (first ++ (gap ++ rest)) (.treeId fault)
  | parentId {header : Header} {good others : List Bytes} {bad : Bytes} {fault : ObjectId.Fault}
      (begun : header.Begun hash) (words : Pieces.Runs Bytes.isBlank header.rest (good ++ bad :: others))
      (before : ∀ word ∈ good, ObjectId.Digits hash word) (refused : ObjectId.Refused hash bad fault) :
      Refused hash header.bytes (.parentId fault)

variable {hash : HashFunction} {header : Header} {id tree : ObjectId} {parents : List ObjectId}

section Shape

theorem digits_or_first_refused (hash : HashFunction) (words : List Bytes) :
    (∀ word ∈ words, ObjectId.Digits hash word) ∨
      ∃ good bad others fault, words = good ++ bad :: others ∧ (∀ word ∈ good, ObjectId.Digits hash word) ∧
        ObjectId.Refused hash bad fault := by
  induction words with
  | nil => exact .inl fun _ member => absurd member List.not_mem_nil
  | cons word words ih =>
      rcases ObjectId.digits_or_refused hash word with digits | ⟨fault, refused⟩
      · rcases ih with all | ⟨good, bad, others, fault, rfl, before, refused⟩
        · exact .inl (List.forall_mem_cons.mpr ⟨digits, all⟩)
        · exact .inr ⟨word :: good, bad, others, fault, rfl, List.forall_mem_cons.mpr ⟨digits, before⟩, refused⟩
      · exact .inr ⟨[], word, words, fault, rfl, fun _ member => absurd member List.not_mem_nil, refused⟩

theorem refused_or_wellFormed (hash : HashFunction) (line : Bytes) :
    (∃ reason, Refused hash line reason) ∨ ∃ header : Header, header.WellFormed hash ∧ header.bytes = line := by
  rcases ObjectId.digits_or_refused hash (line.take hash.hexLength) with first | ⟨fault, refused⟩
  case inr => exact .inl ⟨_, .commitId refused⟩
  -- The second id begins at the first byte that is not blank.
  let behind := line.drop hash.hexLength
  let gap := behind.takeWhile Bytes.isBlank
  let second := behind.dropWhile Bytes.isBlank
  have whole : line = line.take hash.hexLength ++ (gap ++ second) := by
    rw [List.takeWhile_append_dropWhile, List.take_append_drop]
  have blank : ∀ b ∈ gap, Bytes.isBlank b = true := fun b member => List.mem_takeWhile_imp member
  have stops : ∀ b ∈ second.head?, Bytes.isBlank b = false := fun b first => by
    have plain := List.head?_dropWhile_not Bytes.isBlank behind
    rw [Option.mem_def.mp first] at plain
    exact plain
  rcases ObjectId.digits_or_refused hash (second.take hash.hexLength) with digits | ⟨fault, refused⟩
  case inr =>
    rw [whole]
    exact .inl ⟨_, .treeId first blank stops refused⟩
  let header : Header := ⟨line.take hash.hexLength, gap, second.take hash.hexLength, second.drop hash.hexLength⟩
  have begun : header.Begun hash := ⟨first, blank, digits⟩
  have same : header.bytes = line := by
    rw [bytes, List.take_append_drop]
    exact whole.symm
  obtain ⟨words, shape⟩ := Pieces.exists_runs Bytes.isBlank header.rest
  rcases digits_or_first_refused hash words with all | ⟨good, bad, others, fault, rfl, before, refused⟩
  · exact .inr ⟨header, ⟨begun, words, shape, all⟩, same⟩
  · rw [← same]
    exact .inl ⟨_, .parentId begun shape before refused⟩

theorem exists_forall₂_spells {words : List Bytes} (all : ∀ word ∈ words, ObjectId.Digits hash word) :
    ∃ ids, List.Forall₂ ObjectId.Spells words ids := by
  induction words with
  | nil => exact ⟨[], .nil⟩
  | cons word words ih =>
      obtain ⟨first, all⟩ := List.forall_mem_cons.mp all
      obtain ⟨id, spells, -⟩ := ObjectId.exists_spells first
      obtain ⟨ids, others⟩ := ih all
      exact ⟨id :: ids, .cons spells others⟩

theorem WellFormed.exists_tells (shaped : header.WellFormed hash) :
    ∃ id tree parents, header.Tells id tree parents := by
  obtain ⟨id, first, -⟩ := ObjectId.exists_spells shaped.id
  obtain ⟨tree, second, -⟩ := ObjectId.exists_spells shaped.tree
  obtain ⟨words, runs, all⟩ := shaped.parents
  obtain ⟨parents, others⟩ := exists_forall₂_spells all
  exact ⟨id, tree, parents, first, second, words, runs, others⟩

theorem lengths_of_forall₂ {words : List Bytes} {ids : List ObjectId}
    (all : ∀ word ∈ words, ObjectId.Digits hash word) (spells : List.Forall₂ ObjectId.Spells words ids) :
    ∀ id ∈ ids, id.bytes.length = hash.byteLength := by
  induction spells with
  | nil => exact fun _ member => absurd member List.not_mem_nil
  | cons spells others ih =>
      obtain ⟨digits, all⟩ := List.forall_mem_cons.mp all
      exact List.forall_mem_cons.mpr ⟨ObjectId.length_of_spells digits spells, ih all⟩

theorem WellFormed.lengths (shaped : header.WellFormed hash) (tells : header.Tells id tree parents) :
    ∀ other ∈ id :: tree :: parents, other.bytes.length = hash.byteLength := by
  obtain ⟨words, runs, all⟩ := shaped.parents
  obtain ⟨told, again, others⟩ := tells.parents
  obtain rfl : told = words := again.eq_runs.symm.trans runs.eq_runs
  exact List.forall_mem_cons.mpr ⟨ObjectId.length_of_spells shaped.id tells.id,
    List.forall_mem_cons.mpr ⟨ObjectId.length_of_spells shaped.tree tells.tree, lengths_of_forall₂ all others⟩⟩

end Shape

section Reading

open Record

variable {line word : Bytes} {words : List Bytes} {fault : ObjectId.Fault → Reason} {why : ObjectId.Fault}
  {reason : Reason}

theorem idOf_of_spells (digits : ObjectId.Digits hash word) (spells : ObjectId.Spells word id) :
    idOf hash fault word = .ok id := by
  rw [idOf, ObjectId.ofHex_of_spells digits spells]
  rfl

theorem idOf_of_refused (refused : ObjectId.Refused hash word why) : idOf hash fault word = .error (fault why) := by
  rw [idOf, ObjectId.ofHex_of_refused refused]
  rfl

theorem mapM_of_spells {ids : List ObjectId} (all : ∀ word ∈ words, ObjectId.Digits hash word)
    (spells : List.Forall₂ ObjectId.Spells words ids) : words.mapM (idOf hash fault) = .ok ids := by
  induction spells with
  | nil => rfl
  | cons spells others ih =>
      obtain ⟨digits, all⟩ := List.forall_mem_cons.mp all
      rw [List.mapM_cons, idOf_of_spells digits spells, ih all]
      rfl

theorem mapM_of_refused {good others : List Bytes} {bad : Bytes}
    (before : ∀ word ∈ good, ObjectId.Digits hash word) (refused : ObjectId.Refused hash bad why) :
    (good ++ bad :: others).mapM (idOf hash fault) = .error (fault why) := by
  induction good with
  | nil =>
      rw [List.nil_append, List.mapM_cons, idOf_of_refused refused]
      rfl
  | cons word good ih =>
      obtain ⟨digits, before⟩ := List.forall_mem_cons.mp before
      obtain ⟨id, spells, -⟩ := ObjectId.exists_spells digits
      rw [List.cons_append, List.mapM_cons, idOf_of_spells digits spells, ih before]
      rfl

theorem splitAt_digits (digits : ObjectId.Digits hash word) (rest : Bytes) :
    (word ++ rest).splitAt hash.hexLength = (word, rest) := by
  rw [List.splitAt_eq, ← digits.length, List.take_left, List.drop_left]

/-- Behind the first id the blanks are passed over, and what follows is cut again. -/
theorem readHeader_append {first gap rest : Bytes} (digits : ObjectId.Digits hash first)
    (spells : ObjectId.Spells first id) (blank : ∀ b ∈ gap, Bytes.isBlank b = true)
    (stops : ∀ b ∈ rest.head?, Bytes.isBlank b = false) :
    readHeader hash (first ++ (gap ++ rest)) = do
      let tree ← idOf hash .treeId (rest.take hash.hexLength)
      let parents ← (Bytes.words (rest.drop hash.hexLength)).mapM (idOf hash .parentId)
      return (id, tree, parents) := by
  rw [readHeader, splitAt_digits digits]
  simp only [Bytes.trimStart_gap blank stops, List.splitAt_eq]
  rw [idOf_of_spells digits spells]
  rfl

theorem Begun.stops (begun : header.Begun hash) :
    ∀ b ∈ (header.second ++ header.rest).head?, Bytes.isBlank b = false := by
  have digits := begun.tree.digits
  have long := begun.tree.length
  cases written : header.second with
  | nil =>
      rw [written, List.length_nil] at long
      exact absurd long (Nat.ne_of_lt (ObjectId.hexLength_pos hash))
  | cons b others =>
      rintro _ ⟨⟩
      exact Hex.not_blank_of_digit (digits b (written ▸ List.mem_cons_self ..))

theorem Begun.readHeader (begun : header.Begun hash) (first : ObjectId.Spells header.first id)
    (second : ObjectId.Spells header.second tree) :
    readHeader hash header.bytes = do
      let parents ← (Bytes.words header.rest).mapM (idOf hash .parentId)
      return (id, tree, parents) := by
  rw [bytes, readHeader_append begun.id first begun.gap begun.stops, ← begun.tree.length, List.take_left,
    List.drop_left, idOf_of_spells begun.tree second]
  rfl

theorem WellFormed.readHeader (shaped : header.WellFormed hash) (tells : header.Tells id tree parents) :
    readHeader hash header.bytes = .ok (id, tree, parents) := by
  obtain ⟨words, runs, all⟩ := shaped.parents
  obtain ⟨told, again, others⟩ := tells.parents
  obtain rfl : told = words := again.eq_runs.symm.trans runs.eq_runs
  rw [shaped.toBegun.readHeader tells.id tells.tree, Bytes.words, runs.eq_runs, mapM_of_spells all others]
  rfl

theorem Refused.readHeader (refused : Refused hash line reason) : readHeader hash line = .error reason := by
  cases refused with
  | commitId refused =>
      rw [Record.readHeader, List.splitAt_eq]
      dsimp only
      rw [idOf_of_refused refused]
      rfl
  | treeId digits blank stops refused =>
      obtain ⟨id, spells, -⟩ := ObjectId.exists_spells digits
      rw [readHeader_append digits spells blank stops, idOf_of_refused refused]
      rfl
  | parentId begun words before refused =>
      obtain ⟨id, first, -⟩ := ObjectId.exists_spells begun.id
      obtain ⟨tree, second, -⟩ := ObjectId.exists_spells begun.tree
      rw [begun.readHeader first second, Bytes.words, words.eq_runs, mapM_of_refused before refused]
      rfl

/-- Three ids that run together, the last of them a digit short. -/
example : readHeader .sha1 (List.replicate 119 0x61) = .error (.parentId (.length 40 39)) := by rfl

end Reading

end Header

end Log

end CommitLanes
