import CommitLanes.Text.Blank
import Mathlib.Data.List.DropRight

/-! Trimming takes characters off the ends, and a second time it finds none. -/

set_option autoImplicit false

namespace CommitLanes.Text

variable {text : Text} {c d : Char}

theorem prefix_of_trimEnd (text : Text) : trimEnd text <+: text :=
  List.rdropWhile_prefix ..

theorem trimEnd_trimEnd (text : Text) : trimEnd (trimEnd text) = trimEnd text :=
  List.rdropWhile_idempotent ..

theorem dropEnd_dropEnd (c : Char) (text : Text) : dropEnd c (dropEnd c text) = dropEnd c text :=
  List.rdropWhile_idempotent ..

theorem mem_of_mem_trimEnd (member : c ∈ text.trimEnd) : c ∈ text :=
  (prefix_of_trimEnd text).subset member

theorem mem_of_mem_trim (member : c ∈ text.trim) : c ∈ text :=
  (List.dropWhile_suffix _).subset (mem_of_mem_trimEnd member)

theorem mem_of_mem_dropEnd (member : c ∈ dropEnd d text) : c ∈ text :=
  (List.rdropWhile_prefix ..).subset member

theorem trimStart_trimEnd (solid : text.trimStart = text) : text.trimEnd.trimStart = text.trimEnd := by
  apply List.dropWhile_eq_self_iff.mpr
  intro nonempty
  -- What is left begins as the text began.
  have inside : 0 < text.length := Nat.lt_of_lt_of_le nonempty (prefix_of_trimEnd text).length_le
  rw [(prefix_of_trimEnd text).getElem nonempty]
  exact List.dropWhile_eq_self_iff.mp solid inside

theorem trim_trim (text : Text) : text.trim.trim = text.trim := by
  have solid : text.trimStart.trimStart = text.trimStart := List.dropWhile_idempotent ..
  rw [trim, trim, trimStart_trimEnd solid, trimEnd_trimEnd]

theorem not_blank_of_head?_trim (first : c ∈ text.trim.head?) : isBlank c = false := by
  obtain ⟨rest, same⟩ := prefix_of_trimEnd text.trimStart
  -- What is left begins as the text behind its first blanks.
  have begins : text.trimStart.head? = some c := by
    rw [← same, List.head?_append, ← trim, Option.mem_def.mp first]
    rfl
  have stops := List.head?_dropWhile_not isBlank text
  rw [← trimStart, begins] at stops
  exact stops

theorem not_blank_of_getLast?_trim (last : c ∈ text.trim.getLast?) : isBlank c = false := by
  obtain ⟨nonempty, rfl⟩ := List.mem_getLast?_eq_getLast last
  exact eq_false_of_ne_true (List.rdropWhile_last_not isBlank text.trimStart nonempty)

section Concat

theorem trimEnd_concat_of_blank (blank : isBlank c = true) (text : Text) : trimEnd (text ++ [c]) = trimEnd text :=
  List.rdropWhile_concat_pos _ _ _ blank

theorem trimEnd_concat_of_solid (solid : isBlank c = false) (text : Text) : trimEnd (text ++ [c]) = text ++ [c] :=
  List.rdropWhile_concat_neg _ _ _ (by simp [solid])

theorem trim_concat_of_blank (blank : isBlank c = true) (text : Text) : trim (text ++ [c]) = trim text := by
  have start : trimStart (text ++ [c]) = if (trimStart text).isEmpty then [] else trimStart text ++ [c] := by
    rw [trimStart, List.dropWhile_append, List.dropWhile_cons_of_pos blank]
    rfl
  rw [trim, start, trim]
  cases trimStart text with
  | nil => rfl
  | cons first rest => exact trimEnd_concat_of_blank blank (first :: rest)

theorem dropEnd_concat (c : Char) (text : Text) : dropEnd c (text ++ [c]) = dropEnd c text :=
  List.rdropWhile_concat_pos _ _ _ (beq_self_eq_true c)

theorem allBlank_concat_of_blank (blank : isBlank c = true) (text : Text) : allBlank (text ++ [c]) = allBlank text := by
  simp [allBlank, blank]

end Concat

section Padding

theorem exists_padding (text : Text) :
    ∃ before after : Text, text = before ++ text.trim ++ after ∧ (∀ c ∈ before, isBlank c = true) ∧
      ∀ c ∈ after, isBlank c = true := by
  refine ⟨text.takeWhile isBlank, (text.trimStart.reverse.takeWhile isBlank).reverse, ?_,
    fun c member => List.mem_takeWhile_imp member,
    fun c member => List.mem_takeWhile_imp (List.mem_reverse.mp member)⟩
  have back : text.trimStart = text.trim ++ (text.trimStart.reverse.takeWhile isBlank).reverse := by
    rw [trim, trimEnd, ← List.reverse_append, List.takeWhile_append_dropWhile, List.reverse_reverse]
  rw [List.append_assoc, ← back]
  exact List.takeWhile_append_dropWhile.symm

theorem dropWhile_padded {before core after : Text} (blank : ∀ c ∈ before, isBlank c = true) (full : core ≠ [])
    (starts : ∀ c ∈ core.head?, isBlank c = false) : (before ++ (core ++ after)).dropWhile isBlank = core ++ after := by
  cases core with
  | nil => exact absurd rfl full
  | cons first core =>
      have plain : ¬ isBlank first = true := by simp [starts first rfl]
      rw [List.dropWhile_append_of_pos blank, List.cons_append, List.dropWhile_cons_of_neg plain]

theorem trim_padded {before core after : Text} (front : ∀ c ∈ before, isBlank c = true)
    (back : ∀ c ∈ after, isBlank c = true) (full : core ≠ []) (starts : ∀ c ∈ core.head?, isBlank c = false)
    (stops : ∀ c ∈ core.getLast?, isBlank c = false) : trim (before ++ core ++ after) = core := by
  have start : trimStart (before ++ (core ++ after)) = core ++ after := dropWhile_padded front full starts
  have reversed : (after.reverse ++ (core.reverse ++ [])).dropWhile isBlank = core.reverse ++ [] :=
    dropWhile_padded (fun c member => back c (List.mem_reverse.mp member))
      (fun empty => full (List.reverse_eq_nil_iff.mp empty))
      (fun c last => stops c (List.head?_reverse.symm.trans last))
  rw [List.append_nil] at reversed
  rw [List.append_assoc, trim, start, trimEnd, List.reverse_append, reversed, List.reverse_reverse]

end Padding

end CommitLanes.Text
