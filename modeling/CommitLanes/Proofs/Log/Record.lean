import CommitLanes.Proofs.Log.Grammar

/-! What a record holds was in its bytes.

Fields and message are cut out of the raw record. A field is a line of it, so it holds no
newline, and an id that was read is a digest of the kind that is read.
-/

set_option autoImplicit false

namespace CommitLanes.Log.Record

variable {hash : HashFunction} {raw : Bytes} {record : Record} {parts : Parts}

def names (record : Record) : List Bytes :=
  [record.author, record.authorEmail, record.committer, record.committerEmail]

/-- The bytes are those of a line of the raw record, or of a part of one. -/
def Inline (raw bytes : Bytes) : Prop :=
  ∀ b ∈ bytes, b ∈ raw ∧ b ≠ Bytes.newline

structure Drawn (hash : HashFunction) (raw : Bytes) (record : Record) : Prop where
  ids : ∀ id ∈ record.id :: record.tree :: record.parents, id.bytes.length = hash.byteLength
  names : ∀ name ∈ record.names, Inline raw name
  label : ∃ field, Inline raw field ∧ record.label = readLabel field
  message : ∀ b ∈ record.message, b ∈ raw

theorem inline_of_mem_lines (framed : parts.Framed hash) {line : Bytes} (here : line ∈ parts.lines) :
    Inline parts.bytes line := by
  intro b inside
  refine ⟨?_, fun same => framed.lines line here (same ▸ inside)⟩
  have closed : b ∈ parts.lines.flatMap fun line => line ++ [Bytes.newline] :=
    List.mem_flatMap.mpr ⟨line, here, List.mem_append_left _ inside⟩
  exact List.mem_append_right _ (List.mem_cons_of_mem _ (List.mem_append_left _ closed))

theorem mem_bytes_of_mem_last {b : UInt8} (inside : b ∈ parts.last) : b ∈ parts.bytes :=
  List.mem_append_right _ (List.mem_cons_of_mem _ (List.mem_append_right _ inside))

theorem drawn_of_ofBytes (read : ofBytes hash raw = .ok record) : Drawn hash raw record := by
  obtain ⟨parts, shaped, rfl, tells⟩ := ofBytes_eq_ok_iff.mp read
  have inline (line : Bytes) (here : line ∈ parts.lines) : Inline parts.bytes line :=
    inline_of_mem_lines shaped.toFramed here
  refine ⟨shaped.header.lengths tells.header, ?_, ⟨parts.encoding, ?_, tells.label⟩, ?_⟩
  · rw [names, tells.author, tells.authorEmail, tells.committer, tells.committerEmail]
    simp only [List.forall_mem_cons, List.not_mem_nil, false_imp_iff, implies_true, and_true]
    exact ⟨inline _ (by simp [Parts.lines]), inline _ (by simp [Parts.lines]), inline _ (by simp [Parts.lines]),
      inline _ (by simp [Parts.lines])⟩
  · intro b inside
    exact ⟨mem_bytes_of_mem_last (List.mem_append_left _ inside), fun same => shaped.encoding (same ▸ inside)⟩
  · rw [tells.message]
    intro b inside
    -- The message is what stands behind the last newline, if there is one.
    cases written : parts.message with
    | none =>
        rw [written] at inside
        cases inside
    | some message =>
        rw [written] at inside
        refine mem_bytes_of_mem_last (List.mem_append_right _ ?_)
        rw [written]
        exact List.mem_cons_of_mem _ inside

end CommitLanes.Log.Record
