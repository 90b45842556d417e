import CommitLanes.Proofs.Commit.Message
import CommitLanes.Proofs.Log.Record
import CommitLanes.Proofs.Log.Roundtrip
import CommitLanes.Proofs.Text.Ascii

/-! A log that was read is written back, and read again as it was.

The first reading settles everything that reading can change: digits are in lower case, numbers
in their shortest form, texts trimmed and well-formed. What is left is plain text that a second
reading leaves as it is, and nothing in it is taken for a mark.
-/

set_option autoImplicit false

namespace CommitLanes.Log

variable {commit : Commit} {decoder : Decoder} {hash : HashFunction}

def Entry.ofCommit (commit : Commit) : Entry where
  id := commit.id
  tree := commit.tree
  parents := commit.parents
  author := commit.author.utf8
  authorEmail := commit.authorEmail.utf8
  authorDate := commit.authorDate
  committer := commit.committer.utf8
  committerEmail := commit.committerEmail.utf8
  commitDate := commit.commitDate
  encoding := commit.encoding
  message := (Message.together commit.subject commit.body).utf8

def Unmarked (text : Text) : Prop :=
  ∀ c ∈ text, c ≠ '\n' ∧ c ≠ '\x00'

/-- A commit that reading leaves as it is. -/
structure Plain (hash : HashFunction) (commit : Commit) : Prop where
  ids : ∀ id ∈ commit.id :: commit.tree :: commit.parents, id.bytes.length = hash.byteLength
  names : ∀ name ∈ namesOf commit, Unmarked name ∧ Text.dropEnd '\r' name = name
  label : ∀ label ∈ commit.encoding, Unmarked label ∧ label.trim = label ∧ label ≠ []
  message : Message.Parted commit.subject commit.body
  unclosed : ∀ c ∈ Message.together commit.subject commit.body, c ≠ '\x00'
  refs : commit.refs = []

section Reading

variable {raw field : Bytes} {record : Record}

theorem unmarked_decode (clear : ∀ b ∈ raw, Reader.isSeparator b = false) (inline : Record.Inline raw field) :
    Unmarked (Utf8.decode field) := by
  intro c member
  constructor
  · rintro rfl
    exact (inline Bytes.newline (Utf8.mem_of_mem_decode (by decide) member)).2 rfl
  · rintro rfl
    have inside : separator ∈ raw := (inline separator (Utf8.mem_of_mem_decode (by decide) member)).1
    exact absurd (clear separator inside) (by decide)

theorem plain_label (clear : ∀ b ∈ raw, Reader.isSeparator b = false) (inline : Record.Inline raw field)
    {label : Text} (read : label ∈ Record.readLabel field) :
    Unmarked label ∧ label.trim = label ∧ label ≠ [] := by
  obtain ⟨trimmed, nonempty⟩ := Option.filter_eq_some_iff.mp read
  obtain ⟨text, whole, rfl⟩ := Option.map_eq_some_iff.mp trimmed
  refine ⟨fun c member => ?_, Text.trim_trim text, by simpa using nonempty⟩
  have unmarked := unmarked_decode clear inline
  rw [Utf8.decode_of_decode? whole] at unmarked
  exact unmarked c (Text.mem_of_mem_trim member)

theorem plain_commitOf (clear : ∀ b ∈ raw, Reader.isSeparator b = false)
    (read : Record.ofBytes decoder.hash raw = .ok record) (utf8 : decoder.encodingFor record.label = .utf8) :
    Plain decoder.hash (decoder.commitOf record) := by
  obtain ⟨ids, names, ⟨labelField, inline, labelled⟩, message⟩ := Record.drawn_of_ofBytes read
  have parted : (decoder.commitOf record).subject = (Message.split (Utf8.decode record.message)).1 ∧
      (decoder.commitOf record).body = (Message.split (Utf8.decode record.message)).2 := by
    simp [Decoder.commitOf, utf8, Encoding.decode]
  have named : namesOf (decoder.commitOf record) =
      record.names.map fun raw => Text.dropEnd '\r' (Utf8.decode raw) := by
    simp [namesOf, Record.names, Decoder.commitOf, Decoder.readName, utf8, Encoding.decode]
  -- Neither decoding nor trimming brings in a mark, and what was trimmed once is trimmed.
  refine ⟨ids, ?_, ?_, ?_, ?_, rfl⟩
  · rw [named]
    intro name member
    obtain ⟨bytes, here, rfl⟩ := List.mem_map.mp member
    exact ⟨fun c inside => unmarked_decode clear (names bytes here) c (Text.mem_of_mem_dropEnd inside),
      Text.dropEnd_dropEnd ..⟩
  · show ∀ label ∈ record.label, _
    rw [labelled]
    exact fun label => plain_label clear inline
  · rw [parted.1, parted.2]
    exact Message.parted_split _
  · rw [parted.1, parted.2]
    rintro c member rfl
    rcases Message.mem_of_mem_together member with inside | newline
    · have closing : separator ∈ record.message := Utf8.mem_of_mem_decode (by decide) inside
      exact absurd (clear _ (message _ closing)) (by decide)
    · exact absurd newline (by decide)

end Reading

section Writing

theorem label_ofCommit (plain : Plain hash commit) : (Entry.ofCommit commit).label = commit.encoding := by
  rw [Entry.label, Entry.ofCommit]
  cases declared : commit.encoding with
  | none => rfl
  | some label =>
      obtain ⟨-, trimmed, nonempty⟩ := plain.label label declared
      simp [trimmed, nonempty]

theorem writable_ofCommit (plain : Plain hash commit) : (Entry.ofCommit commit).Writable hash where
  ids := plain.ids
  names := by
    have named : (Entry.ofCommit commit).names = (namesOf commit).map Text.utf8 := rfl
    rw [named]
    intro bytes member
    obtain ⟨name, here, rfl⟩ := List.mem_map.mp member
    exact fun b inside => Entry.inner_of_mem_utf8 (plain.names name here).1 inside
  label := fun label declared => (plain.label label declared).1
  message := by
    rintro b member rfl
    exact plain.unclosed _ (Text.mem_of_mem_utf8 member (by decide)) rfl

theorem names_of_told {fallback : Encoding} {other : Commit} (plain : Plain hash commit)
    (utf8 : (Entry.ofCommit commit).reading fallback = .utf8)
    (told : (Entry.ofCommit commit).Told fallback other) : namesOf other = namesOf commit := by
  have written : (Entry.ofCommit commit).names = (namesOf commit).map Text.utf8 := rfl
  rw [told.names, written, utf8, List.map_map]
  refine (List.map_congr_left fun name member => ?_).trans (List.map_id _)
  rw [Function.comp_apply, Encoding.decode, Utf8.decode_utf8, (plain.names name member).2, id_eq]

theorem eq_of_told {fallback : Encoding} {other : Commit} (plain : Plain hash commit)
    (utf8 : (Entry.ofCommit commit).reading fallback = .utf8)
    (told : (Entry.ofCommit commit).Told fallback other) : other = commit := by
  have names := names_of_told plain utf8 told
  simp only [namesOf, List.cons.injEq, and_true] at names
  obtain ⟨author, authorEmail, committer, committerEmail⟩ := names
  have message : (other.subject, other.body) = (commit.subject, commit.body) := by
    rw [told.message, utf8, Encoding.decode, Entry.ofCommit, Utf8.decode_utf8, Message.split_together plain.message]
  obtain ⟨subject, body⟩ := Prod.mk.inj message
  have encoding := told.encoding.trans (label_ofCommit plain)
  have refs := told.refs.trans plain.refs.symm
  cases commit
  cases other
  rw [Commit.mk.injEq]
  exact ⟨told.id, told.tree, told.parents, author, authorEmail, told.authorDate, committer, committerEmail,
    told.commitDate, encoding, subject, body, refs⟩

end Writing

section Whole

variable {raws : List Bytes} {bytes raw : Bytes} {commits : List Commit} {number : Nat}

theorem clear_of_mem_rawRecords (member : raw ∈ rawRecords bytes) : ∀ b ∈ raw, Reader.isSeparator b = false := by
  obtain ⟨piece, kept, rfl⟩ := List.mem_map.mp member
  intro b inside
  exact Pieces.clear_of_mem_split (List.mem_of_mem_filter kept) ((List.dropWhile_suffix _).subset inside)

theorem exists_record_of_decodeAll (sound : (decoder.decodeAll number raws).1 = commits.map .ok) :
    ∀ commit ∈ commits, ∃ raw ∈ raws, ∃ record,
      Record.ofBytes decoder.hash raw = .ok record ∧ decoder.commitOf record = commit := by
  induction raws generalizing decoder number commits with
  | nil =>
      rw [List.map_eq_nil_iff.mp sound.symm]
      exact fun _ member => nomatch member
  | cons raw rest ih =>
      cases read : Record.ofBytes decoder.hash raw with
      | error reason =>
          rw [Decoder.decodeAll_of_error (Decoder.decode_of_error read number)] at sound
          cases commits <;> cases sound
      | ok record =>
          rw [Decoder.decodeAll_of_ok (Decoder.decode_of_ok read number)] at sound
          -- The rest is decoded with another pool, of which no commit takes anything.
          obtain ⟨first, others, rfl, same, later⟩ := List.map_eq_cons_iff.mp sound.symm
          cases same
          intro commit member
          rcases List.mem_cons.mp member with rfl | member
          · exact ⟨raw, List.mem_cons_self .., record, read, rfl⟩
          · obtain ⟨other, here, parts, found⟩ := ih later.symm commit member
            exact ⟨other, List.mem_cons_of_mem raw here, parts, found⟩

theorem eq_of_forall₂_told {fallback : Encoding} {others : List Commit}
    (plain : ∀ commit ∈ commits, Plain hash commit ∧ (Entry.ofCommit commit).reading fallback = .utf8)
    (told : List.Forall₂ (Entry.Told fallback) (commits.map Entry.ofCommit) others) : others = commits := by
  induction commits generalizing others with
  | nil =>
      cases told
      rfl
  | cons commit commits ih =>
      obtain ⟨other, others, first, rest, rfl⟩ := List.forall₂_cons_left_iff.mp told
      obtain ⟨here, utf8⟩ := plain commit (List.mem_cons_self ..)
      rw [eq_of_told here utf8 first, ih (fun later member => plain later (List.mem_cons_of_mem _ member)) rest]

end Whole

/-- A log that is read without a fault, in UTF-8 throughout, is read again as the same commits when
each of them is written back. Whatever the log was like, one reading settles it. -/
theorem rewriting_is_fixpoint (decoder : Decoder) (bytes : Bytes) (commits : List Commit)
    (utf8 : decoder.encoding = .utf8)
    (sound : (Reader.start (.ofBytes bytes) decoder).items = commits.map .ok)
    (known : ∀ commit ∈ commits, ∀ label ∈ commit.encoding,
      Encoding.ofLabel? label.utf8 = none ∨ Encoding.ofLabel? label.utf8 = some .utf8) :
    (Reader.start (.ofBytes (commits.flatMap fun commit => (Entry.ofCommit commit).encode)) decoder).items =
      commits.map .ok := by
  have encodingFor (commit : Commit) (member : commit ∈ commits) : decoder.encodingFor commit.encoding = .utf8 := by
    rw [Decoder.encodingFor, utf8]
    cases declared : commit.encoding with
    | none => rfl
    | some label =>
        rw [Option.bind_some]
        rcases known commit member label declared with unknown | named
        · rw [unknown, Option.getD_none]
        · rw [named, Option.getD_some]
  -- The first reading makes the commits plain, and plain commits are written and read unchanged.
  rw [Reader.items_ofBytes] at sound
  have plain (commit : Commit) (member : commit ∈ commits) : Plain decoder.hash commit := by
    obtain ⟨raw, here, record, read, rfl⟩ := exists_record_of_decodeAll sound commit member
    exact plain_commitOf (clear_of_mem_rawRecords here) read (encodingFor _ member)
  have reading (commit : Commit) (member : commit ∈ commits) :
      (Entry.ofCommit commit).reading decoder.encoding = .utf8 := by
    rw [Entry.reading, label_ofCommit (plain commit member)]
    exact encodingFor commit member
  have writable : ∀ entry ∈ commits.map Entry.ofCommit, entry.Writable decoder.hash := by
    intro entry member
    obtain ⟨commit, here, rfl⟩ := List.mem_map.mp member
    exact writable_ofCommit (plain commit here)
  obtain ⟨others, items, told⟩ := decodeAll_bodies writable 0
  rw [eq_of_forall₂_told (fun commit member => ⟨plain commit member, reading commit member⟩) told] at items
  rw [Reader.items_ofBytes, ← List.flatMap_map, rawRecords_encode writable, items]

/-- Two records that no writer makes. Their ids run together or are in upper case, their numbers
have signs and blanks, names end in carriage returns or break off within a character, and the
second is not closed. -/
def untidyLog : Bytes :=
  List.replicate 40 0x41 ++ List.replicate 40 0x62 ++ [0x09, 0x20] ++ List.replicate 40 0x43 ++
    [0x20, 0x0D, 0x0A] ++ [0x4A, 0xE9, 0x0D, 0x0D, 0x0A] ++ [0x0D, 0x0A] ++ Text.utf8 " +0007\t\n".toList ++
    [0xE2, 0x82, 0x0A] ++ [0x20, 0x0A] ++ Text.utf8 "-00\n".toList ++ Text.utf8 "\u00a0Klingon\r\n".toList ++
    [0xFF] ++ Text.utf8 "subject \t\r\nwrapped\n \u000b\n\n  body\n \n".toList ++ [separator] ++
    [0x0A, 0x20, separator, 0x0D, 0x20] ++
    List.replicate 80 0x63 ++ Text.utf8 "\n\n\n0\n\n\n0\n uTf8 \n".toList ++ [0xF0, 0x9F]

def untidyCommits : List Commit :=
  [{ id := ⟨List.replicate 20 0xAA, by decide⟩
     tree := ⟨List.replicate 20 0xBB, by decide⟩
     parents := [⟨List.replicate 20 0xCC, by decide⟩]
     author := "J\ufffd".toList
     authorEmail := []
     authorDate := 7
     committer := "\ufffd".toList
     committerEmail := " ".toList
     commitDate := 0
     encoding := some "Klingon".toList
     subject := "\ufffdsubject".toList
     body := some "body".toList
     refs := [] },
   { id := ⟨List.replicate 20 0xCC, by decide⟩
     tree := ⟨List.replicate 20 0xCC, by decide⟩
     parents := []
     author := []
     authorEmail := []
     authorDate := 0
     committer := []
     committerEmail := []
     commitDate := 0
     encoding := some "uTf8".toList
     subject := "\ufffd".toList
     body := none
     refs := [] }]

theorem rewriting_is_fixpoint_untidy :
    plainDecoder.encoding = .utf8 ∧
      (∀ commit ∈ untidyCommits, ∀ label ∈ commit.encoding,
        Encoding.ofLabel? label.utf8 = none ∨ Encoding.ofLabel? label.utf8 = some .utf8) ∧
      (Reader.start (.ofBytes untidyLog) plainDecoder).items = untidyCommits.map .ok ∧
      (Reader.start (.ofBytes (untidyCommits.flatMap fun commit => (Entry.ofCommit commit).encode))
        plainDecoder).items = untidyCommits.map .ok := by
  have known : ∀ commit ∈ untidyCommits, ∀ label ∈ commit.encoding,
      Encoding.ofLabel? label.utf8 = none ∨ Encoding.ofLabel? label.utf8 = some .utf8 := by
    decide +kernel
  have sound : (Reader.start (.ofBytes untidyLog) plainDecoder).items = untidyCommits.map .ok := by
    rw [Reader.items_ofBytes]
    decide +kernel
  exact ⟨rfl, known, sound, rewriting_is_fixpoint plainDecoder untidyLog untidyCommits rfl sound known⟩

end CommitLanes.Log
