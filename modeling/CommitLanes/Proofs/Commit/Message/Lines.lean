import CommitLanes.Proofs.Commit.Message

/-! A message told by its lines.

The first line gives the subject. The body stands behind the first blank line after it, where a
newline closes that line: the last line of a message is none to look for.
-/

set_option autoImplicit false

namespace CommitLanes.Message

structure Lines (text : Text) (lines : List Text) : Prop where
  text : text = Text.joined ['\n'] lines
  clear : ∀ line ∈ lines, ∀ c ∈ line, isNewline c = false

section Division

variable {message line : Text} {lines : List Text}

theorem joined_cons (first : Text) (closed : lines ≠ []) :
    Text.joined ['\n'] (first :: lines) = first ++ '\n' :: Text.joined ['\n'] lines := by
  cases lines with
  | nil => exact absurd rfl closed
  | cons second lines =>
      rw [Text.joined, List.append_assoc, List.singleton_append]
      exact List.cons_ne_nil second lines

theorem cut_joined_cons (clear : ∀ c ∈ line, isNewline c = false) (closed : lines ≠ []) :
    Pieces.cut isNewline (Text.joined ['\n'] (line :: lines)) = some (line, Text.joined ['\n'] lines) := by
  rw [joined_cons line closed]
  exact Pieces.cut_of_clear clear (by decide) _

theorem exists_lines (message : Text) : ∃ first later, Lines message (first :: later) := by
  cases found : Pieces.cut isNewline message with
  | none =>
      have clear := Pieces.cut_eq_none_iff.mp found
      exact ⟨message, [], rfl, fun line member => List.mem_singleton.mp member ▸ clear⟩
  | some parts =>
      obtain ⟨first, rest⟩ := parts
      obtain ⟨second, later, divided⟩ := exists_lines rest
      obtain ⟨mark, isMark, same, clear⟩ := Pieces.eq_of_cut found
      obtain rfl : mark = '\n' := of_decide_eq_true isMark
      refine ⟨first, second :: later, ?_, List.forall_mem_cons.mpr ⟨clear, divided.clear⟩⟩
      rw [joined_cons first (List.cons_ne_nil second later), ← divided.text]
      exact same
  termination_by message.length
  decreasing_by exact Pieces.length_of_cut found

theorem Lines.firstLine_eq {first : Text} (divided : Lines message (first :: lines)) :
    firstLine message = (first, Text.joined ['\n'] lines) := by
  obtain ⟨rfl, clear⟩ := divided
  obtain ⟨here, -⟩ := List.forall_mem_cons.mp clear
  cases lines with
  | nil =>
      have uncut : Pieces.cut isNewline first = none := Pieces.cut_eq_none_iff.mpr here
      show (Pieces.cut isNewline first).getD (first, []) = (first, [])
      rw [uncut, Option.getD_none]
  | cons second lines =>
      rw [firstLine, cut_joined_cons here (List.cons_ne_nil second lines)]
      rfl

end Division

section Search

variable {before after lines : List Text} {line : Text}

theorem afterBlankLine_joined (clear : ∀ other ∈ before ++ [line], ∀ c ∈ other, isNewline c = false)
    (full : ∀ other ∈ before, Text.allBlank other = false) (blank : Text.allBlank line = true) (closed : after ≠ []) :
    afterBlankLine (Text.joined ['\n'] (before ++ line :: after)) = some (Text.joined ['\n'] after) := by
  induction before with
  | nil =>
      have here := clear line (List.mem_singleton_self line)
      rw [List.nil_append, afterBlankLine_of_cut (cut_joined_cons here closed), if_pos blank]
  | cons first before ih =>
      obtain ⟨here, clear⟩ := List.forall_mem_cons.mp clear
      obtain ⟨plain, full⟩ := List.forall_mem_cons.mp full
      have more : before ++ line :: after ≠ [] := List.append_ne_nil_of_right_ne_nil before (List.cons_ne_nil line after)
      rw [List.cons_append, afterBlankLine_of_cut (cut_joined_cons here more), plain]
      exact ih clear full

theorem afterBlankLine_joined_eq_none (clear : ∀ other ∈ lines, ∀ c ∈ other, isNewline c = false)
    (full : ∀ other ∈ lines.dropLast, Text.allBlank other = false) :
    afterBlankLine (Text.joined ['\n'] lines) = none := by
  induction lines with
  | nil => simp [Text.joined, afterBlankLine, Pieces.cut]
  | cons first lines ih =>
      obtain ⟨here, clear⟩ := List.forall_mem_cons.mp clear
      cases lines with
      | nil =>
          rw [Text.joined, afterBlankLine, Pieces.cut_eq_none_iff.mpr here]
      | cons second lines =>
          rw [List.dropLast_cons_of_ne_nil (List.cons_ne_nil second lines)] at full
          obtain ⟨plain, full⟩ := List.forall_mem_cons.mp full
          rw [afterBlankLine_of_cut (cut_joined_cons here (List.cons_ne_nil second lines)), plain]
          exact ih clear full

theorem look_of_cut {rest later : Text} (found : Pieces.cut isNewline rest = some (line, later)) :
    look rest = if Text.allBlank line then .inr (some later) else .inl later := by
  rw [look, found]

/-- A look goes past one newline. -/
theorem search_eq {looks : Nat} {rest : Text} (enough : rest.countP isNewline < looks) :
    search looks rest = some (afterBlankLine rest) := by
  induction looks generalizing rest with
  | zero => exact absurd enough (Nat.not_lt_zero _)
  | succ looks ih =>
      cases found : Pieces.cut isNewline rest with
      | none => rw [search, look, afterBlankLine, found]
      | some parts =>
          obtain ⟨line, later⟩ := parts
          obtain ⟨mark, isMark, same, -⟩ := Pieces.eq_of_cut found
          have fewer : later.countP isNewline < looks := by
            rw [same, List.countP_append, List.countP_cons_of_pos isMark] at enough
            omega
          rw [search, look_of_cut found, afterBlankLine_of_cut found]
          cases blank : Text.allBlank line with
          | true => rfl
          | false => exact ih fewer

end Search

/-- Subject and body as the lines of a message say them. Lines after the first count as blank only
where another one follows. -/
structure Told (first : Text) (later : List Text) (subject : Text) (body : Option Text) : Prop where
  subject : subject = first.trimEnd
  behind : ∀ before line after, later = before ++ line :: after → after ≠ [] → Text.allBlank line = true →
    (∀ other ∈ before, Text.allBlank other = false) →
    body = if (Text.joined ['\n'] after).trim = [] then none else some (Text.joined ['\n'] after).trim
  none : (∀ line ∈ later.dropLast, Text.allBlank line = false) → body = none

theorem Lines.told {message first : Text} {later : List Text} (divided : Lines message (first :: later)) :
    Told first later (split message).1 (split message).2 := by
  obtain ⟨-, clear⟩ := List.forall_mem_cons.mp divided.clear
  rw [split_eq, divided.firstLine_eq]
  refine ⟨rfl, ?_, ?_⟩
  · rintro before line after rfl closed blank full
    have inside : ∀ other ∈ before ++ [line], ∀ c ∈ other, isNewline c = false := fun other member =>
      clear other ((List.prefix_append_right_inj before |>.mpr (List.prefix_append [line] after)).subset member)
    rw [afterBlankLine_joined inside full blank closed, Option.map_some, Option.filter_some]
    cases (Text.joined ['\n'] after).trim <;> rfl
  · intro full
    rw [afterBlankLine_joined_eq_none clear full]
    rfl

theorem first_blank_or_full (lines : List Text) :
    (∃ before line after, lines = before ++ line :: after ∧ after ≠ [] ∧ Text.allBlank line = true ∧
      ∀ other ∈ before, Text.allBlank other = false) ∨
    ∀ line ∈ lines.dropLast, Text.allBlank line = false := by
  induction lines with
  | nil => exact .inr fun _ member => absurd member List.not_mem_nil
  | cons first lines ih =>
      by_cases closed : lines = []
      · subst closed
        exact .inr fun _ member => absurd member List.not_mem_nil
      cases blank : Text.allBlank first with
      | true => exact .inl ⟨[], first, lines, rfl, closed, blank, fun _ member => absurd member List.not_mem_nil⟩
      | false =>
          rcases ih with ⟨before, line, after, rfl, more, found, full⟩ | full
          · exact .inl ⟨first :: before, line, after, rfl, more, found, List.forall_mem_cons.mpr ⟨blank, full⟩⟩
          · rw [List.dropLast_cons_of_ne_nil closed]
            exact .inr (List.forall_mem_cons.mpr ⟨blank, full⟩)

theorem Lines.split_eq_of_told {message first subject : Text} {later : List Text} {body : Option Text}
    (divided : Lines message (first :: later)) (told : Told first later subject body) :
    split message = (subject, body) := by
  have split := divided.told
  refine Prod.ext (split.subject.trans told.subject.symm) ?_
  rcases first_blank_or_full later with ⟨before, line, after, same, closed, blank, full⟩ | full
  · rw [split.behind before line after same closed blank full, told.behind before line after same closed blank full]
  · rw [split.none full, told.none full]

/-- What a message is split into is told by its lines. The search for a blank one gives the body, and is
over after as many looks as there are newlines and one more. Both parts are trimmed, so that putting
them together and splitting again changes nothing. -/
theorem split_by_lines (message : Text) :
    (∃ first later, Lines message (first :: later) ∧ Told first later (split message).1 (split message).2 ∧
      ∀ looks, message.countP isNewline < looks → ∃ rest, search looks (Text.joined ['\n'] later) = some rest ∧
        (split message).2 = (rest.map Text.trim).filter fun text => !text.isEmpty) ∧
    '\n' ∉ (split message).1 ∧
    (∀ body ∈ (split message).2, body ≠ [] ∧ (∀ c ∈ body.head?, Text.isBlank c = false) ∧
      ∀ c ∈ body.getLast?, Text.isBlank c = false) ∧
    split (together (split message).1 (split message).2) = split message := by
  have parted := parted_split message
  refine ⟨?_, ?_, ?_, split_together parted⟩
  · obtain ⟨first, later, divided⟩ := exists_lines message
    refine ⟨first, later, divided, divided.told, fun looks enough => ?_⟩
    have behind : Text.joined ['\n'] later <:+ message := by
      have rest := (firstLine_spec message).2.1
      rwa [divided.firstLine_eq] at rest
    have answered := search_eq (Nat.lt_of_le_of_lt behind.sublist.countP_le enough)
    exact ⟨_, answered, by rw [split_eq, divided.firstLine_eq]⟩
  · exact fun member => absurd (parted.oneLine '\n' member) (by decide)
  · intro body isBody
    obtain ⟨trimmed, full⟩ := parted.body body isBody
    rw [← trimmed] at full ⊢
    exact ⟨full, fun c => Text.not_blank_of_head?_trim, fun c => Text.not_blank_of_getLast?_trim⟩

/-- The last line of a message is blank and closes nothing; the one before it does. -/
example : split "subject \r\nwrapped\n ".toList = ("subject".toList, none) ∧
    split "subject\n\t\n \n body\r\n ".toList = ("subject".toList, some "body".toList) := by decide +kernel

end CommitLanes.Message
