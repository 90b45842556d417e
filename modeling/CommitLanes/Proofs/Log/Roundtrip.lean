import CommitLanes.Proofs.Log.Batch
import CommitLanes.Proofs.Log.Entry
import Mathlib.Data.List.Forall2

/-! Entries written one behind another are read back one by one, whatever each of them holds. -/

set_option autoImplicit false

namespace CommitLanes

theorem Text.dropEnd_of_getLast? {c : Char} {text : Text} (other : text.getLast? ≠ some c) :
    dropEnd c text = text := by
  rcases List.eq_nil_or_concat text with rfl | ⟨front, last, rfl⟩
  · rfl
  · have differs : (last == c) = false := by simpa using other
    simp [dropEnd, differs]

namespace Log

def namesOf (commit : Commit) : List Text :=
  [commit.author, commit.authorEmail, commit.committer, commit.committerEmail]

namespace Entry

def reading (fallback : Encoding) (entry : Entry) : Encoding :=
  (entry.label.bind fun label => Encoding.ofLabel? label.utf8).getD fallback

/-- The commit says what the entry says. -/
structure Told (fallback : Encoding) (entry : Entry) (commit : Commit) : Prop where
  id : commit.id = entry.id
  tree : commit.tree = entry.tree
  parents : commit.parents = entry.parents
  authorDate : commit.authorDate = entry.authorDate
  commitDate : commit.commitDate = entry.commitDate
  encoding : commit.encoding = entry.label
  names : namesOf commit =
    entry.names.map fun raw => Text.dropEnd '\r' ((entry.reading fallback).decode raw)
  message : (commit.subject, commit.body) = Message.split ((entry.reading fallback).decode entry.message)
  refs : commit.refs = []
  /-- A name in UTF-8 comes back as it is, unless a carriage return ends it. -/
  unchanged : entry.reading fallback = .utf8 → ∀ (place : Nat) (text : Text),
    entry.names[place]? = some text.utf8 → text.getLast? ≠ some '\r' →
      (namesOf commit)[place]? = some text

theorem name_unchanged {fallback : Encoding} {entry : Entry} {commit : Commit}
    (names : namesOf commit =
      entry.names.map fun raw => Text.dropEnd '\r' ((entry.reading fallback).decode raw))
    (utf8 : entry.reading fallback = .utf8) (place : Nat) (text : Text)
    (written : entry.names[place]? = some text.utf8) (last : text.getLast? ≠ some '\r') :
    (namesOf commit)[place]? = some text := by
  rw [names, List.getElem?_map, written, Option.map_some, utf8, Encoding.decode, Utf8.decode_utf8,
    Text.dropEnd_of_getLast? last]

end Entry

variable {decoder : Decoder} {entry : Entry} {entries : List Entry}

theorem rawRecords_encode_append (writable : entry.Writable decoder.hash) (rest : Bytes) :
    rawRecords (entry.encode ++ rest) = entry.body :: rawRecords rest := by
  have clear : ∀ b ∈ entry.body, Reader.isSeparator b = false := fun b member =>
    beq_eq_false_iff_ne.mpr (Entry.ne_separator_of_mem_body writable member)
  have cut : Pieces.cut Reader.isSeparator (entry.encode ++ rest) = some (entry.body, rest) := by
    rw [Entry.encode_eq, List.append_assoc]
    exact Pieces.cut_of_clear clear (beq_self_eq_true _) rest
  rw [rawRecords_of_cut cut, entry.allBlank_body, entry.trimStart_body]
  rfl

theorem rawRecords_encode (writable : ∀ entry ∈ entries, entry.Writable decoder.hash) :
    rawRecords (entries.flatMap Entry.encode) = entries.map Entry.body := by
  induction entries with
  | nil => rfl
  | cons entry entries ih =>
      rw [List.flatMap_cons, rawRecords_encode_append (writable entry (List.mem_cons_self ..)),
        ih fun other member => writable other (List.mem_cons_of_mem entry member), List.map_cons]

theorem decode_body (writable : entry.Writable decoder.hash) (number : Nat) :
    ∃ commit pool, decoder.decode entry.body number = (.ok commit, { decoder with pool }) ∧
      entry.Told decoder.encoding commit := by
  have names : namesOf (decoder.commitOf entry.record) = entry.names.map fun raw =>
    Text.dropEnd '\r' ((entry.reading decoder.encoding).decode raw) := rfl
  rw [Decoder.decode_of_ok (Entry.ofBytes_body writable)]
  refine ⟨decoder.commitOf entry.record, _, rfl, ?_⟩
  exact {
    id := rfl
    tree := rfl
    parents := rfl
    authorDate := rfl
    commitDate := rfl
    encoding := rfl
    names
    message := rfl
    refs := rfl
    unchanged := Entry.name_unchanged names }

theorem decodeAll_bodies (writable : ∀ entry ∈ entries, entry.Writable decoder.hash) (number : Nat) :
    ∃ commits, (decoder.decodeAll number (entries.map Entry.body)).1 = commits.map .ok ∧
      List.Forall₂ (Entry.Told decoder.encoding) entries commits := by
  induction entries generalizing decoder number with
  | nil => exact ⟨[], rfl, .nil⟩
  | cons entry entries ih =>
      obtain ⟨commit, pool, decoded, told⟩ := decode_body (writable entry (List.mem_cons_self ..)) number
      -- Only the pool has changed, and no commit depends on it.
      have others : ∀ other ∈ entries, other.Writable ({ decoder with pool } : Decoder).hash :=
        fun other member => writable other (List.mem_cons_of_mem entry member)
      obtain ⟨commits, items, rest⟩ := ih others (number + 1)
      refine ⟨commit :: commits, ?_, .cons told rest⟩
      rw [List.map_cons, Decoder.decodeAll_of_ok decoded]
      exact congrArg (.ok commit :: ·) items

/-- A reader of entries that were written one behind another gives one commit for each, in their
order and with all they say, and then nothing for ever. -/
theorem reading_undoes_writing (decoder : Decoder) (entries : List Entry)
    (writable : ∀ entry ∈ entries, entry.Writable decoder.hash) :
    ∃ commits, List.Forall₂ (Entry.Told decoder.encoding) entries commits ∧
      ∀ calls, let reader := Reader.start (.ofBytes (entries.flatMap Entry.encode)) decoder
        reader.call calls = commits[calls]?.map .ok ∧
          (reader.after calls).records = min calls entries.length := by
  obtain ⟨commits, items, told⟩ := decodeAll_bodies writable 0
  rw [← rawRecords_encode writable] at items
  refine ⟨commits, told, fun calls => ⟨?_, ?_⟩⟩
  · rw [Reader.call_ofBytes, items, List.getElem?_map]
  · rw [Reader.records_ofBytes, items, List.length_map, ← told.length_eq]

/-- A merge under a label of its own, with a carriage return, an empty line and a byte that is
no UTF-8. -/
def latinEntry : Entry where
  id := ⟨List.replicate 20 0x0A, by decide⟩
  tree := ⟨List.replicate 20 0x00, by decide⟩
  parents := [⟨List.replicate 20 0x20, by decide⟩, ⟨List.replicate 20 0xFF, by decide⟩]
  author := [0x4A, 0x6F, 0x73, 0xE9, 0x0D]
  authorEmail := []
  authorDate := Int64.minValue
  committer := [0x20]
  committerEmail := [0x0D]
  commitDate := -1
  encoding := some " latin1\t".toList
  message := [0x0A, 0x0A, 0xE9, 0x0A]

def plainEntry : Entry where
  id := ⟨List.replicate 20 0x20, by decide⟩
  tree := ⟨List.replicate 20 0x00, by decide⟩
  parents := []
  author := Text.utf8 "José".toList
  authorEmail := Text.utf8 "jose@example.org".toList
  authorDate := 0
  committer := Text.utf8 "José".toList
  committerEmail := Text.utf8 "jose@example.org".toList
  commitDate := Int64.maxValue
  encoding := none
  message := []

def plainDecoder : Decoder :=
  ⟨.sha1, .utf8, .standard⟩

theorem reading_undoes_writing_both :
    (∀ entry ∈ [latinEntry, plainEntry], entry.Writable plainDecoder.hash) ∧
      ∃ commits, List.Forall₂ (Entry.Told plainDecoder.encoding) [latinEntry, plainEntry] commits ∧
        ∀ calls,
          let reader := Reader.start (.ofBytes ([latinEntry, plainEntry].flatMap Entry.encode)) plainDecoder
          reader.call calls = commits[calls]?.map .ok ∧ (reader.after calls).records = min calls 2 := by
  have writable : ∀ entry ∈ [latinEntry, plainEntry], entry.Writable plainDecoder.hash := by
    intro entry here
    rcases List.mem_pair.mp here with rfl | rfl
    · decide
    · decide +kernel
  exact ⟨writable, reading_undoes_writing plainDecoder _ writable⟩

end Log

end CommitLanes
