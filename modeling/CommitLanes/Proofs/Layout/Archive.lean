import CommitLanes.Layout.Archive
import CommitLanes.Proofs.Layout.Packing
import CommitLanes.Proofs.Layout.Window
import Mathlib.Data.List.DropRight
import Mathlib.Data.List.Induction
import Mathlib.Data.List.Intervals
import Mathlib.Order.Bounds.Basic

/-! Rows are found again by their number and by their commit.

Beside the rows an archive keeps the place of each commit's first one, and each change goes to both.
That they agree is kept by every change, so whatever is asked of an archive is answered from its rows
alone, and these are the rows that came in since it was last cleared.
-/

set_option autoImplicit false

namespace CommitLanes.Layout

namespace Archive

namespace Change

def brings : Change → List Row
  | .insert row => [row]
  | .extend rows => rows
  | .clear => []

def keeps : Change → Bool
  | .clear => false
  | _ => true

end Change

def stored (history : List Change) : List Row :=
  (history.rtakeWhile Change.keeps).flatMap Change.brings

/-- The place noted for a commit is that of its first row. -/
def Indexed (archive : Archive) : Prop :=
  ∀ id, archive.indexOf? id = archive.rows.findIdx? fun row => row.node.id = id

section Changes

variable {archive : Archive}

theorem rows_insert (archive : Archive) (row : Row) : (archive.insert row).2.rows = archive.rows ++ [row] :=
  rfl

theorem indexOf?_insert (archive : Archive) (row : Row) (id : ObjectId) :
    (archive.insert row).2.indexOf? id =
      (archive.indexOf? id).or (if row.node.id = id then some archive.size else none) := by
  by_cases known : (archive.indexOf? row.node.id).isSome = true
  · have same : (archive.insert row).2.indexOf? id = archive.indexOf? id := by
      rw [insert, if_pos known]
      rfl
    rw [same]
    split
    next here =>
      obtain ⟨place, found⟩ := Option.isSome_iff_exists.mp known
      rw [← here, found, Option.some_or]
    next => rw [Option.or_none]
  · rw [insert, if_neg known]
    simp only [indexOf?, List.find?_append, Option.map_or]
    congr 1
    by_cases here : row.node.id = id <;> simp [here]

theorem Indexed.insert (indexed : archive.Indexed) (row : Row) : (archive.insert row).2.Indexed := by
  intro id
  rw [indexOf?_insert, indexed id, rows_insert, List.findIdx?_append]
  by_cases here : row.node.id = id <;> simp [here, size]

theorem insertAll_cons (archive : Archive) (row : Row) (rest : List Row) :
    archive.insertAll (row :: rest) = (archive.insert row).2.insertAll rest :=
  rfl

theorem rows_insertAll (archive : Archive) (rows : List Row) :
    (archive.insertAll rows).rows = archive.rows ++ rows := by
  induction rows generalizing archive with
  | nil => exact (List.append_nil _).symm
  | cons row rest ih => rw [insertAll_cons, ih, rows_insert, List.append_assoc, List.singleton_append]

theorem Indexed.insertAll (indexed : archive.Indexed) (rows : List Row) : (archive.insertAll rows).Indexed := by
  induction rows generalizing archive with
  | nil => exact indexed
  | cons row rest ih => exact ih (indexed.insert row)

theorem rows_change (archive : Archive) (change : Change) :
    (archive.change change).rows = (if change.keeps then archive.rows else []) ++ change.brings := by
  cases change with
  | insert row => exact rows_insert archive row
  | extend rows => exact rows_insertAll archive rows
  | clear => rfl

theorem indexed_empty : empty.Indexed :=
  fun _ => rfl

theorem Indexed.change (indexed : archive.Indexed) (change : Change) : (archive.change change).Indexed := by
  cases change with
  | insert row => exact indexed.insert row
  | extend rows => exact indexed.insertAll rows
  | clear => exact indexed_empty

theorem Indexed.changeAll (indexed : archive.Indexed) (history : List Change) : (archive.changeAll history).Indexed := by
  induction history generalizing archive with
  | nil => exact indexed
  | cons change history ih => exact ih (indexed.change change)

theorem stored_concat (history : List Change) (change : Change) :
    stored (history ++ [change]) = (if change.keeps then stored history else []) ++ change.brings := by
  unfold stored
  rw [List.rtakeWhile_concat]
  cases change <;> simp [Change.keeps, Change.brings]

theorem rows_changeAll (history : List Change) : (empty.changeAll history).rows = stored history := by
  induction history using List.reverseRecOn with
  | nil => rfl
  | append_singleton history change ih =>
      rw [changeAll, List.foldl_append, List.foldl_cons, List.foldl_nil, rows_change, stored_concat]
      exact congrArg (fun rows => (if change.keeps then rows else []) ++ change.brings) ih

end Changes

section Lookups

variable {archive : Archive}

theorem Indexed.indexOf?_eq_some_iff (indexed : archive.Indexed) {id : ObjectId} {place : Nat} :
    archive.indexOf? id = some place ↔
      IsLeast {place | ∃ row, archive.rows[place]? = some row ∧ row.node.id = id} place := by
  rw [indexed, List.findIdx?_eq_some_iff_getElem]
  constructor
  · rintro ⟨inside, here, first⟩
    refine ⟨⟨_, List.getElem?_eq_getElem inside, of_decide_eq_true here⟩, ?_⟩
    rintro other ⟨row, found, named⟩
    by_contra before
    obtain ⟨_, rfl⟩ := List.getElem?_eq_some_iff.mp found
    exact first other (Nat.lt_of_not_le before) (decide_eq_true named)
  · rintro ⟨⟨row, found, named⟩, least⟩
    obtain ⟨inside, rfl⟩ := List.getElem?_eq_some_iff.mp found
    refine ⟨inside, decide_eq_true named, fun other before again => ?_⟩
    have earlier := least ⟨_, List.getElem?_eq_getElem (Nat.lt_trans before inside), of_decide_eq_true again⟩
    exact Nat.not_lt.mpr earlier before

theorem Indexed.indexOf?_eq_none_iff (indexed : archive.Indexed) {id : ObjectId} :
    archive.indexOf? id = none ↔ ∀ row ∈ archive.rows, row.node.id ≠ id := by
  rw [indexed, List.findIdx?_eq_none_iff]
  simp only [decide_eq_false_iff_not, ne_eq]

theorem range?_eq (archive : Archive) (start stop : Nat) :
    archive.range? start stop = some (archive.range start stop) :=
  if_pos ⟨Nat.min_le_right _ _, Nat.min_le_right _ _⟩

theorem filterMap_range' (rows : List Row) (start count : Nat) :
    (List.range' start count).filterMap (fun place => rows[place]?) = (rows.drop start).take count := by
  induction count generalizing start with
  | zero => simp
  | succ count ih =>
      rw [List.range'_succ, List.filterMap_cons, ih]
      cases found : rows[start]? with
      | none =>
          have outside := List.getElem?_eq_none_iff.mp found
          simp [List.drop_eq_nil_of_le outside, List.drop_eq_nil_of_le (Nat.le_succ_of_le outside)]
      | some row =>
          obtain ⟨inside, rfl⟩ := List.getElem?_eq_some_iff.mp found
          rw [List.drop_eq_getElem_cons inside, List.take_succ_cons]

theorem range_eq (archive : Archive) (start stop : Nat) :
    archive.range start stop = (List.Ico start stop).filterMap archive.get? := by
  rw [List.Ico]
  refine Eq.trans ?_ (filterMap_range' archive.rows start (stop - start)).symm
  apply List.ext_getElem?
  intro number
  simp only [range, size, List.getElem?_take, List.getElem?_drop]
  -- Bounds that were moved were moved to where there is no row.
  by_cases inside : number < stop - start ∧ start + number < archive.rows.length
  · have bound : min start (min stop archive.rows.length) = start := by omega
    rw [bound, if_pos (by omega), if_pos inside.1]
  · rw [if_neg (by omega)]
    split
    · exact (List.getElem?_eq_none (by omega)).symm
    · rfl

structure Serves (archive : Archive) (rows : List Row) : Prop where
  size : archive.size = rows.length
  isEmpty : archive.isEmpty = true ↔ rows = []
  get? : ∀ place, archive.get? place = rows[place]?
  insert : ∀ row, (archive.insert row).1 = rows.length ∧ (archive.insert row).2.get? rows.length = some row
  indexOf?_eq_some_iff : ∀ id place, archive.indexOf? id = some place ↔
    IsLeast {place | ∃ row, rows[place]? = some row ∧ row.node.id = id} place
  indexOf?_eq_none_iff : ∀ id, archive.indexOf? id = none ↔ ∀ row ∈ rows, row.node.id ≠ id
  find?_eq_some_iff : ∀ id row, archive.find? id = some row ↔
    ∃ place, archive.indexOf? id = some place ∧ rows[place]? = some row
  find?_eq_none_iff : ∀ id, archive.find? id = none ↔ archive.indexOf? id = none
  range : ∀ start stop, archive.range? start stop = some (archive.range start stop) ∧
    archive.range start stop = (List.Ico start stop).filterMap fun place => rows[place]?

theorem Indexed.find?_eq_none_iff (indexed : archive.Indexed) {id : ObjectId} :
    archive.find? id = none ↔ archive.indexOf? id = none := by
  refine ⟨fun missing => ?_, fun none => by rw [find?, none, Option.bind_none]⟩
  cases found : archive.indexOf? id with
  | none => rfl
  | some place =>
      obtain ⟨⟨row, here, -⟩, -⟩ := indexed.indexOf?_eq_some_iff.mp found
      rw [find?, found, Option.bind_some, get?, here] at missing
      cases missing

theorem Indexed.serves (indexed : archive.Indexed) : archive.Serves archive.rows where
  size := rfl
  isEmpty := List.isEmpty_iff
  get? _ := rfl
  insert row := by
    refine ⟨rfl, ?_⟩
    rw [Archive.get?, rows_insert, List.getElem?_concat_length]
  indexOf?_eq_some_iff _ _ := indexed.indexOf?_eq_some_iff
  indexOf?_eq_none_iff _ := indexed.indexOf?_eq_none_iff
  find?_eq_some_iff _ _ := Option.bind_eq_some_iff
  find?_eq_none_iff _ := indexed.find?_eq_none_iff
  range start stop := ⟨range?_eq archive start stop, range_eq archive start stop⟩

end Lookups

theorem maxWidth_le_iff (archive : Archive) (columns : Nat) :
    archive.maxWidth ≤ columns ↔ ∀ row ∈ archive.rows, row.width ≤ columns := by
  rw [maxWidth, Lane.foldl_max_le_iff Row.width]
  simp only [Nat.zero_le, true_and]

end Archive

def emitted (layout : Layout) : List Move → List Row
  | [] => []
  | .push node :: rest => (layout.push node).1 :: emitted (layout.push node).2 rest
  | .finish :: rest => emitted layout.finish.2 rest

theorem maxWidth_foldl_move_le_iff (layout : Layout) (moves : List Move) (columns : Nat) :
    (moves.foldl move layout).maxWidth ≤ columns ↔
      layout.maxWidth ≤ columns ∧ ∀ row ∈ layout.emitted moves, row.width ≤ columns := by
  induction moves generalizing layout with
  | nil => simp [emitted]
  | cons step rest ih =>
      rw [List.foldl_cons, ih]
      cases step with
      | push node => rw [move, maxWidth_push, Nat.max_le, emitted, List.forall_mem_cons, and_assoc]
      | finish => rfl

/-- Whatever was done to an archive, it answers from the rows stored since it was last cleared. If
these are the rows of a layout, the two agree on how wide the widest is. -/
theorem archive_serves_stored_rows (history : List Archive.Change) :
    let archive := Archive.empty.changeAll history
    archive.Serves (Archive.stored history) ∧
    ∀ (window : Option Nat) (moves : List Move),
      (∀ row, row ∈ Archive.stored history ↔ row ∈ (start window).emitted moves) →
      archive.maxWidth = (after window moves).maxWidth := by
  intro archive
  have rows : archive.rows = Archive.stored history := Archive.rows_changeAll history
  refine ⟨rows ▸ (Archive.indexed_empty.changeAll history).serves, fun window moves same => ?_⟩
  refine eq_of_forall_ge_iff fun columns => ?_
  rw [Archive.maxWidth_le_iff, rows, after, maxWidth_foldl_move_le_iff]
  simp only [same, start, Nat.zero_le, true_and]

/-- A commit comes again when the layout has forgotten it, and the archive held its rows before. -/
theorem archive_serves_rows_of_repeat :
    let moves := [.push (sampleNode 2 [1, 3]), .finish, .push (sampleNode 1 [2]), .push (sampleNode 2 [4])]
    let rows := (start (some 1)).emitted moves
    let history := [.extend rows, .clear, .extend (rows.take 2)] ++ (rows.drop 2).map .insert
    let archive := Archive.empty.changeAll history
    (∀ row, row ∈ Archive.stored history ↔ row ∈ rows) ∧
      archive.maxWidth = (after (some 1) moves).maxWidth ∧ archive.maxWidth = 2 ∧
      archive.indexOf? (sampleNode 2 []).id = some 0 ∧ archive.get? 2 = rows[2]? := by
  intro moves rows history archive
  have all : Archive.stored history = rows := by decide +kernel
  have same : ∀ row, row ∈ Archive.stored history ↔ row ∈ rows := fun row => by rw [all]
  obtain ⟨serves, widest⟩ := archive_serves_stored_rows history
  have first : archive.indexOf? (sampleNode 2 []).id = some 0 := by decide +kernel
  have third := serves.get? 2
  rw [all] at third
  exact ⟨same, widest (some 1) moves same, by decide +kernel, first, third⟩

end CommitLanes.Layout
