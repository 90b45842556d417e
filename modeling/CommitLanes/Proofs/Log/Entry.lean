import CommitLanes.Log.Entry
import CommitLanes.Proofs.Log.Grammar

/-! A written entry is taken apart into the parts it was written from.

Its marks are bytes of ASCII that no id, number or label holds. The names are free but for the
marks of a line and of an entry, and the message but for the latter. So the entry is a record of
the grammar, and its parts say what it says.
-/

set_option autoImplicit false

namespace CommitLanes

namespace Bytes

variable {word : Bytes}

theorem trimStart_append (solid : ∀ b ∈ word, isBlank b = false) (nonempty : word ≠ []) (rest : Bytes) :
    trimStart (word ++ rest) = word ++ rest := by
  cases word with
  | nil => exact absurd rfl nonempty
  | cons first word =>
      have solid : isBlank first = false := solid first (List.mem_cons_self ..)
      rw [trimStart, List.cons_append, List.dropWhile_cons_of_neg (by simp [solid])]

end Bytes

theorem Text.utf8_joined (first : Text) (rest : List Text) :
    (joined [' '] (first :: rest)).utf8 = first.utf8 ++ rest.flatMap fun word => 0x20 :: word.utf8 := by
  induction rest generalizing first with
  | nil => simp [joined]
  | cons next rest ih =>
      rw [joined, utf8_append, utf8_append, ih next, List.flatMap_cons, List.append_assoc]
      · rfl
      · exact List.cons_ne_nil _ _

namespace Log.Entry

def names (entry : Entry) : List Bytes :=
  [entry.author, entry.authorEmail, entry.committer, entry.committerEmail]

/-- The ids are digests of the kind that is read, and nothing in the entry is taken for a mark. -/
structure Writable (hash : HashFunction) (entry : Entry) : Prop where
  ids : ∀ id ∈ entry.id :: entry.tree :: entry.parents, id.bytes.length = hash.byteLength
  names : ∀ name ∈ entry.names, ∀ b ∈ name, b ≠ Bytes.newline ∧ b ≠ separator
  label : ∀ label ∈ entry.encoding, ∀ c ∈ label, c ≠ '\n' ∧ c ≠ '\x00'
  message : ∀ b ∈ entry.message, b ≠ separator

def isWritable (hash : HashFunction) (entry : Entry) : Bool :=
  ((entry.id :: entry.tree :: entry.parents).all fun id => id.bytes.length == hash.byteLength) &&
    (entry.names.all fun name => name.all fun b => b != Bytes.newline && b != separator) &&
    (entry.encoding.all fun label => label.all fun c => c != '\n' && c != '\x00') &&
    entry.message.all fun b => b != separator

theorem isWritable_iff {hash : HashFunction} {entry : Entry} :
    entry.isWritable hash = true ↔ entry.Writable hash := by
  simp only [isWritable, Bool.and_eq_true, List.all_eq_true, Option.all_eq_true, beq_iff_eq, bne_iff_ne]
  constructor
  · rintro ⟨⟨⟨ids, names⟩, label⟩, message⟩
    exact ⟨ids, names, label, message⟩
  · intro writable
    exact ⟨⟨⟨writable.ids, writable.names⟩, writable.label⟩, writable.message⟩

instance (hash : HashFunction) (entry : Entry) : Decidable (entry.Writable hash) :=
  decidable_of_iff _ isWritable_iff

def label (entry : Entry) : Option Text :=
  (entry.encoding.map Text.trim).filter fun label => !label.isEmpty

def record (entry : Entry) : Record where
  id := entry.id
  tree := entry.tree
  parents := entry.parents
  author := entry.author
  authorEmail := entry.authorEmail
  authorDate := entry.authorDate
  committer := entry.committer
  committerEmail := entry.committerEmail
  commitDate := entry.commitDate
  label := entry.label
  message := entry.message

variable {entry : Entry} {hash : HashFunction} {id : ObjectId} {b : UInt8}

section Header

theorem solid_of_mem_hex (member : b ∈ id.hex.utf8) : Bytes.isBlank b = false :=
  Hex.not_blank_of_digit ((Hex.digits_of_decode (Hex.decode_encode id.bytes)).1 b member)

theorem hex_ne_nil (id : ObjectId) : id.hex.utf8 ≠ [] := by
  intro empty
  have length := id.length_hex
  rw [empty, List.length_nil] at length
  rcases id.known_length with known | known <;> omega

theorem header_eq (entry : Entry) :
    entry.header = entry.id.hex.utf8 ++
      0x20 :: (entry.tree.hex.utf8 ++ entry.parents.flatMap fun id => 0x20 :: id.hex.utf8) := by
  rw [header, List.map_cons, Text.utf8_joined, List.map_cons, List.flatMap_cons, List.flatMap_map]
  rfl

end Header

section Marks

/-- A byte of a line: none that closes a line or an entry. -/
def Inner (b : UInt8) : Prop :=
  b ≠ Bytes.newline ∧ b ≠ separator

theorem inner_of_le (graphic : 0x20 ≤ b) : Inner b :=
  ⟨fun same => absurd graphic (by rw [same]; decide), fun same => absurd graphic (by rw [same]; decide)⟩

theorem inner_of_mem_utf8 {text : Text} (clear : ∀ c ∈ text, c ≠ '\n' ∧ c ≠ '\x00')
    (member : b ∈ text.utf8) : Inner b := by
  constructor
  · rintro rfl
    exact (clear _ (Text.mem_of_mem_utf8 member (by decide))).1 rfl
  · rintro rfl
    exact (clear _ (Text.mem_of_mem_utf8 member (by decide))).2 rfl

theorem inner_of_mem_date {seconds : Int64} (member : b ∈ date seconds) : Inner b := by
  refine inner_of_mem_utf8 (fun c inside => ?_) member
  rcases Decimal.sign_or_digit_of_mem_ofInt inside with rfl | digit
  · decide
  · constructor <;> rintro rfl <;> exact absurd digit (by decide)

theorem inner_of_mem_header (member : b ∈ entry.header) : Inner b := by
  have hex {id : ObjectId} (member : b ∈ id.hex.utf8) : 0x20 ≤ b :=
    UInt8.le_trans (by decide) (ObjectId.le_of_mem_hex member)
  apply inner_of_le
  simp only [header_eq, List.mem_append, List.mem_cons, List.mem_flatMap] at member
  obtain id | rfl | tree | ⟨parent, -, rfl | parent⟩ := member
  · exact hex id
  · decide
  · exact hex tree
  · decide
  · exact hex parent

theorem inner_of_mem_lines (writable : entry.Writable hash) {line : Bytes} (here : line ∈ entry.lines)
    (member : b ∈ line) : Inner b := by
  have names := writable.names
  simp only [Entry.names, List.forall_mem_cons] at names
  obtain ⟨author, authorEmail, committer, committerEmail, -⟩ := names
  have label : ∀ c ∈ entry.encoding.getD [], c ≠ '\n' ∧ c ≠ '\x00' := by
    cases declared : entry.encoding with
    | none => simp
    | some label => exact writable.label label declared
  -- The ids, the numbers and the label are text, so their bytes of ASCII are its characters.
  simp only [lines, List.mem_cons, List.not_mem_nil, or_false] at here
  obtain rfl | rfl | rfl | rfl | rfl | rfl | rfl | rfl := here
  · exact inner_of_mem_header member
  · exact author b member
  · exact authorEmail b member
  · exact inner_of_mem_date member
  · exact committer b member
  · exact committerEmail b member
  · exact inner_of_mem_date member
  · exact inner_of_mem_utf8 label member

end Marks

section Body

def body (entry : Entry) : Bytes :=
  (entry.lines.flatMap fun line => line ++ [Bytes.newline]) ++ entry.message

theorem encode_eq (entry : Entry) : entry.encode = entry.body ++ [separator] :=
  rfl

theorem ne_separator_of_mem_body (writable : entry.Writable hash) (member : b ∈ entry.body) :
    b ≠ separator := by
  rcases List.mem_append.mp member with inLines | inMessage
  · obtain ⟨line, here, inside⟩ := List.mem_flatMap.mp inLines
    rcases List.mem_append.mp inside with inLine | closing
    · exact (inner_of_mem_lines writable here inLine).2
    · rw [List.mem_singleton.mp closing]
      decide
  · exact writable.message b inMessage

theorem body_eq (entry : Entry) :
    entry.body = entry.header ++ Bytes.newline ::
      ((entry.lines.tail.flatMap fun line => line ++ [Bytes.newline]) ++ entry.message) := by
  simp [body, lines]

theorem trimStart_body (entry : Entry) : Bytes.trimStart entry.body = entry.body := by
  rw [body_eq, header_eq, List.append_assoc]
  exact Bytes.trimStart_append (fun b => solid_of_mem_hex) (hex_ne_nil _) _

theorem allBlank_body (entry : Entry) : Bytes.allBlank entry.body = false := by
  obtain ⟨first, others, digits⟩ := List.exists_cons_of_ne_nil (hex_ne_nil entry.id)
  have inHex : first ∈ entry.id.hex.utf8 := by
    rw [digits]
    exact List.mem_cons_self ..
  simp [body_eq, header_eq, digits, Bytes.allBlank, solid_of_mem_hex inHex]

end Body

section Grammar

def parts (entry : Entry) : Parts where
  header := ⟨entry.id.hex.utf8, [0x20], entry.tree.hex.utf8, entry.parents.flatMap fun id => 0x20 :: id.hex.utf8⟩
  author := entry.author
  authorEmail := entry.authorEmail
  authorDate := date entry.authorDate
  committer := entry.committer
  committerEmail := entry.committerEmail
  commitDate := date entry.commitDate
  encoding := (entry.encoding.getD []).utf8
  message := some entry.message

theorem bytes_header_parts (entry : Entry) : entry.parts.header.bytes = entry.header :=
  (header_eq entry).symm

theorem lines_eq (entry : Entry) :
    entry.lines = entry.header :: (entry.parts.lines ++ [entry.parts.encoding]) :=
  rfl

theorem bytes_parts (entry : Entry) : entry.parts.bytes = entry.body := by
  rw [Parts.bytes, bytes_header_parts, body_eq, lines_eq, List.tail_cons, List.flatMap_append]
  simp [Parts.last, parts]

theorem date_date (seconds : Int64) : Date (date seconds) seconds := by
  refine ⟨[], Decimal.ofInt seconds.toInt, [], ?_, fun _ member => absurd member List.not_mem_nil,
    fun _ member => absurd member List.not_mem_nil, Decimal.int64?_eq_some_iff.mp (Decimal.int64?_ofInt seconds)⟩
  rw [List.nil_append, List.append_nil]
  rfl

theorem runs_parents (parents : List ObjectId) :
    Pieces.Runs Bytes.isBlank (parents.flatMap fun id => 0x20 :: id.hex.utf8)
      (parents.map fun id => id.hex.utf8) := by
  have solid : ∀ word ∈ parents.map fun id => id.hex.utf8, word ≠ [] ∧ ∀ b ∈ word, Bytes.isBlank b = false := by
    intro word member
    obtain ⟨id, _, rfl⟩ := List.mem_map.mp member
    exact ⟨hex_ne_nil id, fun b => solid_of_mem_hex⟩
  have marked := Pieces.runs_of_marked (show Bytes.isBlank 0x20 = true from rfl) solid
  rwa [List.flatMap_map] at marked

theorem wellFormed_parts (writable : entry.Writable hash) : entry.parts.WellFormed hash := by
  obtain ⟨id, others⟩ := List.forall_mem_cons.mp writable.ids
  obtain ⟨tree, parents⟩ := List.forall_mem_cons.mp others
  have clear : ∀ line ∈ entry.lines, Bytes.newline ∉ line := fun line here member =>
    (inner_of_mem_lines writable here member).1 rfl
  rw [lines_eq, List.forall_mem_cons, List.forall_mem_append] at clear
  obtain ⟨first, fields, label⟩ := clear
  refine ⟨⟨⟨⟨ObjectId.digits_hex id, ?_, ObjectId.digits_hex tree⟩, _, runs_parents entry.parents, ?_⟩, ?_, fields, ?_⟩,
    ⟨_, date_date entry.authorDate⟩, ⟨_, date_date entry.commitDate⟩⟩
  · intro b member
    rw [List.mem_singleton.mp member]
    rfl
  · intro word member
    obtain ⟨parent, here, rfl⟩ := List.mem_map.mp member
    exact ObjectId.digits_hex (parents parent here)
  · rw [bytes_header_parts]
    exact first
  · exact label _ (List.mem_singleton_self _)

theorem readLabel_label (entry : Entry) :
    Record.readLabel (entry.encoding.getD []).utf8 = entry.label := by
  rw [Record.readLabel, Utf8.decode?_utf8, label]
  -- No label is written like an empty one, which is read as none.
  cases entry.encoding <;> rfl

theorem tells_parts (entry : Entry) : entry.parts.Tells entry.record where
  header := {
    id := ObjectId.spells_hex entry.id
    tree := ObjectId.spells_hex entry.tree
    parents := ⟨_, runs_parents entry.parents,
      List.forall₂_map_left_iff.mpr (List.forall₂_same.mpr fun id _ => ObjectId.spells_hex id)⟩ }
  author := rfl
  authorEmail := rfl
  authorDate := date_date entry.authorDate
  committer := rfl
  committerEmail := rfl
  commitDate := date_date entry.commitDate
  label := (readLabel_label entry).symm
  message := rfl

theorem ofBytes_body (writable : entry.Writable hash) :
    Record.ofBytes hash entry.body = .ok entry.record := by
  rw [← bytes_parts]
  exact (wellFormed_parts writable).ofBytes (tells_parts entry)

end Grammar

end Log.Entry

end CommitLanes
