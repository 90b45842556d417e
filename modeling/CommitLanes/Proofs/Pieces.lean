import CommitLanes.Pieces
import Mathlib.Data.List.DropRight

/-! Laws of cutting: what stands before a separator is cut off whatever comes behind it. -/

set_option autoImplicit false

namespace CommitLanes.Pieces

variable {α : Type} {sep : α → Bool} {text before after : List α}

/-- Text without a separator stands in front of the first piece. -/
theorem cut_append (clear : ∀ a ∈ before, sep a = false) (text : List α) :
    cut sep (before ++ text) = (cut sep text).map fun found => (before ++ found.1, found.2) := by
  induction before with
  | nil => simp
  | cons a before ih =>
      have plain : sep a = false := clear a (List.mem_cons_self ..)
      rw [List.cons_append, cut, ih fun b member => clear b (List.mem_cons_of_mem a member)]
      simp [plain, Function.comp_def]

theorem cut_of_clear (clear : ∀ a ∈ before, sep a = false) {mark : α} (isMark : sep mark = true)
    (after : List α) : cut sep (before ++ mark :: after) = some (before, after) := by
  rw [cut_append clear]
  simp [cut, isMark]

theorem cut_append_right (found : cut sep text = some (before, after)) (more : List α) :
    cut sep (text ++ more) = some (before, after ++ more) := by
  obtain ⟨mark, isMark, rfl, clear⟩ := eq_of_cut found
  rw [List.append_assoc, List.cons_append, cut_of_clear clear isMark]

theorem split_of_uncut (uncut : cut sep text = none) : split sep text = [text] := by
  induction text with
  | nil => rfl
  | cons a rest ih =>
      have clear := cut_eq_none_iff.mp uncut
      have plain : sep a = false := clear a (List.mem_cons_self ..)
      rw [split, ih (cut_eq_none_iff.mpr fun b member => clear b (List.mem_cons_of_mem a member))]
      simp [plain]

theorem split_of_cut (found : cut sep text = some (before, after)) :
    split sep text = before :: split sep after := by
  obtain ⟨mark, isMark, rfl, clear⟩ := eq_of_cut found
  clear found
  induction before with
  | nil => simp [split, isMark]
  | cons a before ih =>
      have plain : sep a = false := clear a (List.mem_cons_self ..)
      rw [List.cons_append, split, ih fun b member => clear b (List.mem_cons_of_mem a member)]
      simp [plain]

/-- The text without what stands behind its last separator. -/
def closed (sep : α → Bool) (text : List α) : List α :=
  text.rdropWhile fun a => !sep a

/-- The start is empty or ends in a separator, and no longer start does. -/
structure LongestClosed (sep : α → Bool) (text start : List α) : Prop where
  starts : start <+: text
  ends : ∀ last ∈ start.getLast?, sep last = true
  longest : ∀ other, other <+: text → (∀ last ∈ other.getLast?, sep last = true) →
    other.length ≤ start.length

theorem last_of_closed (sep : α → Bool) (text : List α) :
    ∀ last ∈ (closed sep text).getLast?, sep last = true := by
  intro last isLast
  obtain ⟨nonempty, rfl⟩ := List.mem_getLast?_eq_getLast isLast
  have kept := List.rdropWhile_last_not (fun a => !sep a) text nonempty
  rwa [Bool.not_eq_true, Bool.not_eq_false'] at kept

theorem prefix_closed {start : List α} (starts : start <+: text)
    (ends : ∀ last ∈ start.getLast?, sep last = true) : start <+: closed sep text := by
  obtain ⟨rest, rfl⟩ := starts
  -- What stands behind the start is dropped from its end, up to a separator or up to the start.
  induction rest using List.reverseRecOn with
  | nil =>
      have whole : closed sep start = start := List.rdropWhile_eq_self_iff.mpr fun nonempty => by
        simp [ends _ (List.getLast_mem_getLast? nonempty)]
      simp [whole]
  | append_singleton rest a ih =>
      rw [← List.append_assoc, closed, List.rdropWhile_concat]
      split
      · exact ih
      · exact ⟨rest ++ [a], by rw [List.append_assoc]⟩

theorem longestClosed_iff {start : List α} : LongestClosed sep text start ↔ start = closed sep text := by
  constructor
  · intro longest
    have inside := prefix_closed longest.starts longest.ends
    have reached := longest.longest _ (List.rdropWhile_prefix ..) (last_of_closed sep text)
    exact inside.eq_of_length (Nat.le_antisymm inside.length_le reached)
  · rintro rfl
    exact ⟨List.rdropWhile_prefix .., last_of_closed sep text,
      fun other starts ends => (prefix_closed starts ends).length_le⟩

theorem closed_of_uncut (uncut : cut sep text = none) : closed sep text = [] := by
  have clear := cut_eq_none_iff.mp uncut
  exact List.rdropWhile_eq_nil_iff.mpr fun a member => by simp [clear a member]

theorem cut_closed (found : cut sep text = some (before, after)) :
    cut sep (closed sep text) = some (before, closed sep after) := by
  obtain ⟨mark, isMark, rfl, clear⟩ := eq_of_cut found
  -- The separator itself is the last thing that could be dropped from the end.
  have kept : closed sep (before ++ mark :: after) = before ++ mark :: closed sep after := by
    simp only [closed, List.rdropWhile, List.reverse_append, List.reverse_cons, List.append_assoc,
      List.dropWhile_append]
    split <;> simp_all
  rw [kept, cut_of_clear clear isMark]

theorem clear_of_mem_split {piece : List α} {a : α} (member : piece ∈ split sep text) (inside : a ∈ piece) :
    sep a = false := by
  fun_induction split sep text generalizing piece with
  | case1 =>
      rw [List.mem_singleton.mp member] at inside
      cases inside
  | case2 mark rest isMark ih =>
      rcases List.mem_cons.mp member with rfl | later
      · cases inside
      · exact ih later inside
  | case3 first rest plain head others pieces ih =>
      rcases List.mem_cons.mp member with rfl | later
      · rcases List.mem_cons.mp inside with rfl | inside
        · simpa using plain
        · exact ih (pieces ▸ List.mem_cons_self ..) inside
      · exact ih (pieces ▸ List.mem_cons_of_mem _ later) inside
  | case4 first rest plain pieces ih => exact absurd pieces (split_ne_nil sep rest)

end CommitLanes.Pieces
