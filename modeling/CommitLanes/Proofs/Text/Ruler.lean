import CommitLanes.Text.Ruler
import Mathlib.Algebra.Ring.Nat
import Mathlib.Data.List.Infix

/-! A text that is cut to a number of columns has room there, and no cut leaves more of it.

A ruler need not add up: side by side, clusters may take fewer columns than by themselves. All that is
asked of it is that they do not take more.
-/

set_option autoImplicit false

namespace CommitLanes.Ruler

variable {ruler : Ruler} {budget : Nat} {clusters run : List Text}

def total (ruler : Ruler) (parts : List Text) : Nat :=
  (parts.map ruler.width).sum

def Subadditive (ruler : Ruler) (parts : List Text) : Prop :=
  ruler.width parts.flatten ≤ ruler.total parts

instance (ruler : Ruler) (parts : List Text) : Decidable (ruler.Subadditive parts) :=
  inferInstanceAs (Decidable (_ ≤ _))

/-- The longest run of clusters from the start whose widths together are within the budget. -/
structure LongestWithin (ruler : Ruler) (budget : Nat) (clusters run : List Text) : Prop where
  starts : run <+: clusters
  within : ruler.total run ≤ budget
  longest : ∀ other, other <+: clusters → ruler.total other ≤ budget → other.length ≤ run.length

theorem prefix_fitting_iff :
    run <+: ruler.fitting budget clusters ↔ run <+: clusters ∧ ruler.total run ≤ budget := by
  induction clusters generalizing budget run with
  | nil =>
      rw [fitting, List.prefix_nil, iff_self_and]
      rintro rfl
      exact Nat.zero_le budget
  | cons cluster rest ih =>
      cases run with
      | nil => simp [total]
      | cons first run =>
          have sum : ruler.total (first :: run) = ruler.width first + ruler.total run := List.sum_cons
          rw [fitting, List.cons_prefix_cons, sum]
          split
          next fits =>
            rw [List.cons_prefix_cons, ih]
            constructor
            · rintro ⟨rfl, starts, within⟩
              exact ⟨⟨rfl, starts⟩, by omega⟩
            · rintro ⟨⟨rfl, starts⟩, within⟩
              exact ⟨rfl, starts, by omega⟩
          next tooWide =>
            rw [List.prefix_nil]
            constructor
            · exact fun empty => nomatch empty
            · rintro ⟨⟨rfl, -⟩, within⟩
              omega

theorem longestWithin_fitting (ruler : Ruler) (budget : Nat) (clusters : List Text) :
    ruler.LongestWithin budget clusters (ruler.fitting budget clusters) := by
  obtain ⟨starts, within⟩ := prefix_fitting_iff.mp (List.prefix_refl (ruler.fitting budget clusters))
  exact ⟨starts, within, fun other begins fits => (prefix_fitting_iff.mpr ⟨begins, fits⟩).length_le⟩

section Truncation

variable {text ellipsis : Text} {columns : Nat}

theorem truncate_of_fits (fits : ruler.width text ≤ columns) : ruler.truncate text columns ellipsis = text :=
  if_pos fits

theorem truncate_of_room (wide : columns < ruler.width text) (room : ruler.width ellipsis ≤ columns) :
    ruler.truncate text columns ellipsis =
      (ruler.fitting (columns - ruler.width ellipsis) (ruler.clusters text)).flatten ++ ellipsis := by
  rw [truncate, if_neg (Nat.not_le.mpr wide)]
  exact if_pos room

theorem truncate_of_no_room (wide : columns < ruler.width text) (noRoom : columns < ruler.width ellipsis) :
    ruler.truncate text columns ellipsis = (ruler.fitting 0 (ruler.clusters text)).flatten := by
  rw [truncate, if_neg (Nat.not_le.mpr wide), Nat.sub_eq_zero_of_le (Nat.le_of_lt noRoom)]
  exact if_neg (Nat.not_le.mpr noRoom)

theorem width_truncate_le (beside : ∀ run, run <+: ruler.clusters text →
      ruler.Subadditive run ∧ ruler.Subadditive (run ++ [ellipsis])) :
    ruler.width (ruler.truncate text columns ellipsis) ≤ columns := by
  by_cases fits : ruler.width text ≤ columns
  case pos => rwa [truncate_of_fits fits]
  have wide := Nat.not_le.mp fits
  by_cases room : ruler.width ellipsis ≤ columns
  case pos =>
    rw [truncate_of_room wide room]
    have longest := ruler.longestWithin_fitting (columns - ruler.width ellipsis) (ruler.clusters text)
    generalize ruler.fitting _ _ = run at longest ⊢
    calc ruler.width (run.flatten ++ ellipsis)
        = ruler.width (run ++ [ellipsis]).flatten := by simp
      _ ≤ ruler.total (run ++ [ellipsis]) := (beside run longest.starts).2
      _ = ruler.total run + ruler.width ellipsis := by simp [total]
      _ ≤ columns - ruler.width ellipsis + ruler.width ellipsis := Nat.add_le_add_right longest.within _
      _ = columns := Nat.sub_add_cancel room
  case neg =>
    rw [truncate_of_no_room wide (Nat.not_le.mp room)]
    have longest := ruler.longestWithin_fitting 0 (ruler.clusters text)
    generalize ruler.fitting _ _ = run at longest ⊢
    calc ruler.width run.flatten
        ≤ ruler.total run := (beside run longest.starts).1
      _ ≤ 0 := longest.within
      _ ≤ columns := Nat.zero_le columns

end Truncation

/-- A text is left alone where it fits. Else as many whole clusters are kept as have room beside the
ellipsis, and where not even that has room, only those that take none. Nothing is asked of the ruler
but that the clusters make up the text and are not wider side by side. -/
theorem truncate_keeps_the_most (ruler : Ruler) (text ellipsis : Text) (columns : Nat)
    (whole : (ruler.clusters text).flatten = text)
    (beside : ∀ run, run <+: ruler.clusters text → ruler.Subadditive run ∧ ruler.Subadditive (run ++ [ellipsis])) :
    ruler.width (ruler.truncate text columns ellipsis) ≤ columns ∧
    (ruler.width text ≤ columns → ruler.truncate text columns ellipsis = text) ∧
    (columns < ruler.width text → ∃ run, run.flatten <+: text ∧
      (ruler.width ellipsis ≤ columns →
        ruler.LongestWithin (columns - ruler.width ellipsis) (ruler.clusters text) run ∧
          ruler.truncate text columns ellipsis = run.flatten ++ ellipsis) ∧
      (columns < ruler.width ellipsis →
        ruler.LongestWithin 0 (ruler.clusters text) run ∧ ruler.truncate text columns ellipsis = run.flatten)) := by
  refine ⟨width_truncate_le beside, truncate_of_fits, fun wide => ?_⟩
  have longest := ruler.longestWithin_fitting (columns - ruler.width ellipsis) (ruler.clusters text)
  refine ⟨_, ?_, fun room => ⟨longest, truncate_of_room wide room⟩, fun noRoom => ?_⟩
  · obtain ⟨rest, same⟩ := longest.starts
    exact ⟨rest.flatten, by rw [← List.flatten_append, same, whole]⟩
  · rw [Nat.sub_eq_zero_of_le (Nat.le_of_lt noRoom)] at longest ⊢
    exact ⟨longest, truncate_of_no_room wide noRoom⟩

/-- A space without width, a wide character, one with an accent, and two more wide ones. -/
def mixedText : Text :=
  "\u200b中e\u0301文字".toList

example : terminal.truncate mixedText 7 ['…'] = mixedText ∧
    terminal.truncate mixedText 6 ['…'] = "\u200b中e\u0301文…".toList ∧
    terminal.truncate mixedText 2 "...".toList = "\u200b".toList := by decide +kernel

/-- The widths that a terminal shows, with an ellipsis that has room and with one that has none. -/
theorem truncate_keeps_the_most_terminal :
    (terminal.clusters mixedText).flatten = mixedText ∧
      (∀ ellipsis ∈ [['…'], "...".toList], ∀ run, run <+: terminal.clusters mixedText →
        terminal.Subadditive run ∧ terminal.Subadditive (run ++ [ellipsis])) ∧
      (∃ run, terminal.LongestWithin 5 (terminal.clusters mixedText) run ∧
        terminal.truncate mixedText 6 ['…'] = run.flatten ++ ['…']) ∧
      terminal.width (terminal.truncate mixedText 6 ['…']) ≤ 6 ∧
      ∃ run, terminal.LongestWithin 0 (terminal.clusters mixedText) run ∧
        terminal.truncate mixedText 2 "...".toList = run.flatten := by
  have whole : (terminal.clusters mixedText).flatten = mixedText := Grapheme.flatten_clusters mixedText
  have beside : ∀ ellipsis ∈ [['…'], "...".toList], ∀ run, run <+: terminal.clusters mixedText →
      terminal.Subadditive run ∧ terminal.Subadditive (run ++ [ellipsis]) := by
    simp only [← List.mem_inits]
    decide +kernel
  have one : terminal.width ['…'] = 1 := by decide +kernel
  obtain ⟨narrow, -, cut⟩ := truncate_keeps_the_most terminal mixedText ['…'] 6 whole (beside _ (by decide))
  obtain ⟨-, -, bare⟩ := truncate_keeps_the_most terminal mixedText "...".toList 2 whole (beside _ (by decide))
  obtain ⟨run, -, room, -⟩ := cut (by decide +kernel)
  obtain ⟨few, -, -, noRoom⟩ := bare (by decide +kernel)
  rw [one] at room
  exact ⟨whole, beside, ⟨run, room (by decide)⟩, narrow, few, noRoom (by decide +kernel)⟩

end CommitLanes.Ruler
