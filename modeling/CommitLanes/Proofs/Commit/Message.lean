import CommitLanes.Commit.Message
import CommitLanes.Proofs.Pieces
import CommitLanes.Proofs.Text.Trim

/-! A message that was taken apart can be put together and taken apart again.

What lies between subject and body is lost, but nothing of the two themselves.
-/

set_option autoImplicit false

namespace CommitLanes.Message

variable {message rest subject body : Text} {c : Char}

theorem afterBlankLine_of_cut {line : Text} (found : Pieces.cut isNewline message = some (line, rest)) :
    afterBlankLine message = if Text.allBlank line then some rest else afterBlankLine rest := by
  rw [afterBlankLine]
  split <;> simp_all

theorem suffix_of_afterBlankLine (found : afterBlankLine message = some rest) : rest <:+ message := by
  fun_induction afterBlankLine message with
  | case1 => cases found
  | case2 text line later cut blank =>
      cases found
      obtain ⟨mark, -, rfl, -⟩ := Pieces.eq_of_cut cut
      exact ⟨line ++ [mark], by simp⟩
  | case3 text line later cut full ih =>
      obtain ⟨mark, -, rfl, -⟩ := Pieces.eq_of_cut cut
      exact (ih found).trans ⟨line ++ [mark], by simp⟩

def firstLine (message : Text) : Text × Text :=
  (Pieces.cut isNewline message).getD (message, [])

theorem firstLine_spec (message : Text) :
    (firstLine message).1 <+: message ∧ (firstLine message).2 <:+ message ∧
      ∀ c ∈ (firstLine message).1, isNewline c = false := by
  unfold firstLine
  cases cut : Pieces.cut isNewline message with
  | none => exact ⟨List.prefix_refl _, List.nil_suffix, Pieces.cut_eq_none_iff.mp cut⟩
  | some parts =>
      obtain ⟨line, rest⟩ := parts
      obtain ⟨mark, -, rfl, clear⟩ := Pieces.eq_of_cut cut
      exact ⟨⟨_, rfl⟩, ⟨line ++ [mark], List.append_assoc ..⟩, clear⟩

theorem split_eq (message : Text) :
    split message = (Text.trimEnd (firstLine message).1,
      ((afterBlankLine (firstLine message).2).map Text.trim).filter fun text => !text.isEmpty) :=
  rfl

structure Parted (subject : Text) (body : Option Text) : Prop where
  oneLine : ∀ c ∈ subject, isNewline c = false
  trimmed : subject.trimEnd = subject
  body : ∀ text ∈ body, text.trim = text ∧ text ≠ []

theorem parted_split (message : Text) : Parted (split message).1 (split message).2 := by
  obtain ⟨-, -, clear⟩ := firstLine_spec message
  rw [split_eq]
  refine ⟨fun c member => clear c (Text.mem_of_mem_trimEnd member), Text.trimEnd_trimEnd _, fun text isBody => ?_⟩
  obtain ⟨trimmed, nonempty⟩ := Option.filter_eq_some_iff.mp isBody
  obtain ⟨untrimmed, -, rfl⟩ := Option.map_eq_some_iff.mp trimmed
  exact ⟨Text.trim_trim untrimmed, by simpa using nonempty⟩

theorem mem_of_mem_subject (member : c ∈ (split message).1) : c ∈ message := by
  rw [split_eq] at member
  exact (firstLine_spec message).1.subset (Text.mem_of_mem_trimEnd member)

theorem mem_of_mem_body {text : Text} (isBody : text ∈ (split message).2) (member : c ∈ text) : c ∈ message := by
  rw [split_eq] at isBody
  obtain ⟨trimmed, -⟩ := Option.filter_eq_some_iff.mp isBody
  obtain ⟨untrimmed, found, rfl⟩ := Option.map_eq_some_iff.mp trimmed
  have later : c ∈ (firstLine message).2 := (suffix_of_afterBlankLine found).subset (Text.mem_of_mem_trim member)
  exact (firstLine_spec message).2.1.subset later

/-- Subject and body as a message, with a blank line between them. -/
def together (subject : Text) (body : Option Text) : Text :=
  subject ++ (body.map fun text => '\n' :: '\n' :: text).getD []

theorem mem_of_mem_together (member : c ∈ together (split message).1 (split message).2) :
    c ∈ message ∨ c = '\n' := by
  rcases List.mem_append.mp member with subject | body
  · exact .inl (mem_of_mem_subject subject)
  · cases found : (split message).2 with
    | none => simp [found] at body
    | some text =>
        simp only [found, Option.map_some, Option.getD_some, List.mem_cons] at body
        rcases body with newline | newline | inside
        · exact .inr newline
        · exact .inr newline
        · exact .inl (mem_of_mem_body found inside)

theorem split_together {body : Option Text} (parted : Parted subject body) :
    split (together subject body) = (subject, body) := by
  obtain ⟨oneLine, trimmed, whole⟩ := parted
  cases body with
  | none =>
      have uncut : Pieces.cut isNewline subject = none := Pieces.cut_eq_none_iff.mpr oneLine
      have alone : firstLine subject = (subject, []) := by rw [firstLine, uncut, Option.getD_none]
      rw [together, Option.map_none, Option.getD_none, List.append_nil, split_eq, alone, trimmed]
      simp [afterBlankLine, Pieces.cut]
  | some text =>
      obtain ⟨same, nonempty⟩ := whole text rfl
      have cut : Pieces.cut isNewline (subject ++ '\n' :: '\n' :: text) = some (subject, '\n' :: text) :=
        Pieces.cut_of_clear oneLine (by decide) _
      have first : firstLine (subject ++ '\n' :: '\n' :: text) = (subject, '\n' :: text) := by
        rw [firstLine, cut, Option.getD_some]
      -- The line behind the subject is empty.
      have next : Pieces.cut isNewline ('\n' :: text) = some ([], text) := rfl
      have blank : afterBlankLine ('\n' :: text) = some text := afterBlankLine_of_cut next
      rw [together, Option.map_some, Option.getD_some, split_eq, first, blank, trimmed]
      simp [same, nonempty]

end CommitLanes.Message
