/-! The pieces of a list between separators.

A separator is any element that a test accepts. `split` keeps empty pieces, so it
gives one piece more than there are separators; the other operations are views of it
that stop early.
-/

set_option autoImplicit false

namespace CommitLanes.Pieces

variable {α : Type}

def cut (sep : α → Bool) : List α → Option (List α × List α)
  | [] => none
  | a :: rest =>
      if sep a then some ([], rest)
      else (cut sep rest).map fun found => (a :: found.1, found.2)

def split (sep : α → Bool) : List α → List (List α)
  | [] => [[]]
  | a :: rest =>
      if sep a then [] :: split sep rest
      else match split sep rest with
        | first :: others => (a :: first) :: others
        | [] => [[a]]

def splitUpTo (sep : α → Bool) : Nat → List α → List (List α)
  | 0, _ => []
  | 1, text => [text]
  | limit + 2, text =>
      match cut sep text with
      | none => [text]
      | some (piece, rest) => piece :: splitUpTo sep (limit + 1) rest

def runs (sep : α → Bool) (text : List α) : List (List α) :=
  (split sep text).filter fun piece => !piece.isEmpty

theorem split_ne_nil (sep : α → Bool) (text : List α) : split sep text ≠ [] := by
  cases text with
  | nil => simp [split]
  | cons a rest =>
      simp only [split]
      split
      · simp
      · split <;> simp

theorem cut_eq_none_iff {sep : α → Bool} {text : List α} :
    cut sep text = none ↔ ∀ a ∈ text, sep a = false := by
  induction text with
  | nil => simp [cut]
  | cons a rest ih =>
      by_cases h : sep a <;> simp [cut, h, ih]

/-- Cutting loses only the separator itself, and there is none before it. -/
theorem eq_of_cut {sep : α → Bool} {text before after : List α}
    (found : cut sep text = some (before, after)) :
    ∃ mark, sep mark = true ∧ text = before ++ mark :: after ∧ ∀ a ∈ before, sep a = false := by
  induction text generalizing before after with
  | nil => simp [cut] at found
  | cons a rest ih =>
      by_cases h : sep a = true
      · simp only [cut, h, if_true, Option.some.injEq, Prod.mk.injEq] at found
        obtain ⟨rfl, rfl⟩ := found
        exact ⟨a, h, rfl, by simp⟩
      · simp only [cut, h, if_neg, Bool.false_eq_true, not_false_eq_true, Option.map_eq_some_iff,
          Prod.mk.injEq] at found
        obtain ⟨⟨b, c⟩, inner, rfl, rfl⟩ := found
        obtain ⟨mark, isMark, same, clear⟩ := ih inner
        refine ⟨mark, isMark, by simp [same], ?_⟩
        intro x member
        rcases List.mem_cons.mp member with rfl | member
        · simpa using h
        · exact clear x member

theorem length_of_cut {sep : α → Bool} {text before after : List α}
    (found : cut sep text = some (before, after)) : after.length < text.length := by
  obtain ⟨mark, _, same, _⟩ := eq_of_cut found
  simp [same]
  omega

end CommitLanes.Pieces
