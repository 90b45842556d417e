import CommitLanes.Proofs.Printer.Cells
import CommitLanes.Proofs.Text.Ruler

/-! The room that a line has.

The head of a line stays whole, also where it alone is wider than the line may be. The subject gets
what is left behind it, so a line is too wide only if its head is. As with a cut text, nothing is asked
of the ruler but that the parts of this one line are not wider side by side.
-/

set_option autoImplicit false

namespace CommitLanes.Printer

def shown (printer : Printer) (row : Layout.Row) : Text :=
  printer.ruler.truncate row.node.subject (printer.width - printer.ruler.width (head printer.glyphs row) - 1)
    printer.glyphs.ellipsis

section Room

variable {printer : Printer} {row : Layout.Row}

theorem format_of_room (room : printer.ruler.width (head printer.glyphs row) + 1 < printer.width) :
    printer.format row = head printer.glyphs row ++ ' ' :: printer.shown row := by
  rw [format, shown, Nat.sub_sub]
  exact if_pos room

theorem format_of_no_room (full : printer.width ≤ printer.ruler.width (head printer.glyphs row) + 1) :
    printer.format row = head printer.glyphs row :=
  if_neg (Nat.not_lt.mpr full)

theorem minus?_of_le {whole part : Nat} (le : part ≤ whole) : minus? whole part = some (whole - part) :=
  if_pos le

theorem head?_eq (glyphs : Glyphs) (row : Layout.Row) : head? glyphs row = some (head glyphs row) := by
  rw [head?, (cells?_eq glyphs row).1, Option.map_some]
  rfl

theorem format?_eq (printer : Printer) (row : Layout.Row) : printer.format? row = some (printer.format row) := by
  rw [format?, head?_eq, Option.bind_eq_bind, Option.bind_some, format]
  dsimp only
  split
  next room => rw [minus?_of_le (Nat.le_of_lt room), Option.map_some]
  next => rfl

theorem head_prefix_format (printer : Printer) (row : Layout.Row) :
    head printer.glyphs row <+: printer.format row := by
  by_cases room : printer.ruler.width (head printer.glyphs row) + 1 < printer.width
  · rw [format_of_room room]
    exact List.prefix_append _ _
  · rw [format_of_no_room (Nat.not_lt.mp room)]

theorem width_format_le (space : printer.ruler.width [' '] ≤ 1)
    (beside : ∀ run, run <+: printer.ruler.clusters row.node.subject →
      printer.ruler.Subadditive run ∧ printer.ruler.Subadditive (run ++ [printer.glyphs.ellipsis]))
    (joined : printer.ruler.Subadditive [head printer.glyphs row, [' '], printer.shown row]) :
    printer.ruler.width (printer.format row) ≤ max printer.width (printer.ruler.width (head printer.glyphs row)) := by
  by_cases room : printer.ruler.width (head printer.glyphs row) + 1 < printer.width
  · have cut : printer.ruler.width (printer.shown row) ≤
        printer.width - printer.ruler.width (head printer.glyphs row) - 1 := Ruler.width_truncate_le beside
    apply le_max_of_le_left
    calc printer.ruler.width (printer.format row)
        = printer.ruler.width [head printer.glyphs row, [' '], printer.shown row].flatten := by
          simp [format_of_room room]
      _ ≤ printer.ruler.total [head printer.glyphs row, [' '], printer.shown row] := joined
      _ = printer.ruler.width (head printer.glyphs row) + (printer.ruler.width [' '] +
            printer.ruler.width (printer.shown row)) := by simp [Ruler.total]
      _ ≤ printer.width := by omega
  · rw [format_of_no_room (Nat.not_lt.mp room)]
    exact le_max_right _ _

/-- Only a head that is too wide by itself makes a line too wide, as it stays whole. -/
theorem width_format_le_iff (space : printer.ruler.width [' '] ≤ 1)
    (beside : ∀ run, run <+: printer.ruler.clusters row.node.subject →
      printer.ruler.Subadditive run ∧ printer.ruler.Subadditive (run ++ [printer.glyphs.ellipsis]))
    (joined : printer.ruler.Subadditive [head printer.glyphs row, [' '], printer.shown row]) :
    printer.ruler.width (printer.format row) ≤ printer.width ↔
      printer.ruler.width (head printer.glyphs row) ≤ printer.width := by
  constructor
  · intro fits
    by_contra wide
    rw [format_of_no_room (by omega)] at fits
    exact wide fits
  · intro fits
    have bound := width_format_le space beside joined
    rwa [max_eq_left fits] at bound

end Room

/-- A line is its head, and behind it as much of the subject as has room beside a space. It is drawn and
measured without a step that could fail, its head stays whole, and it is never wider than asked for
unless its head is. Of the ruler that is asked only where the subject is cut and where it is joined to
the head, and that a space takes a column at most. -/
theorem line_takes_its_room (printer : Printer) (row : Layout.Row) (space : printer.ruler.width [' '] ≤ 1)
    (beside : ∀ run, run <+: printer.ruler.clusters row.node.subject →
      printer.ruler.Subadditive run ∧ printer.ruler.Subadditive (run ++ [printer.glyphs.ellipsis]))
    (joined : printer.ruler.Subadditive [head printer.glyphs row, [' '], printer.shown row]) :
    let head := lanes printer.glyphs row ++ row.node.id.short ++ dateLabel row.node ++ decorations row.node.refs
    let line := printer.format row
    let width := printer.ruler.width
    printer.format? row = some line ∧
      (printer.width ≤ width head + 1 → line = head) ∧
      (width head + 1 < printer.width → line = head ++ [' '] ++
        printer.ruler.truncate row.node.subject (printer.width - width head - 1) printer.glyphs.ellipsis) ∧
      head <+: line ∧
      width line ≤ max printer.width (width head) ∧
      (width line ≤ printer.width ↔ width head ≤ printer.width) := by
  intro head line width
  refine ⟨format?_eq printer row, format_of_no_room, fun room => ?_, head_prefix_format printer row,
    width_format_le space beside joined, width_format_le_iff space beside joined⟩
  rw [List.append_assoc]
  exact format_of_room room

/-- A merge with a branch and a tag, and wide characters in its subject. -/
def taggedMerge : Layout.Row :=
  let node := Layout.sampleNode 3 [1, 2]
  ((Layout.start none).push { node with
    commitDate := 1700000000
    subject := Ruler.mixedText
    refs := [⟨"main".toList, node.id, .branch⟩, ⟨"v1".toList, node.id, .tag⟩] }).1

/-- Four columns are left for the subject. With four less there would be none, and the head ends the
line; with four less again it is wider than the line. -/
theorem line_takes_its_room_taggedMerge :
    let printer (width : Nat) : Printer := ⟨.unicode, width, .terminal⟩
    Ruler.terminal.width [' '] ≤ 1 ∧
      (∀ run, run <+: Ruler.terminal.clusters Ruler.mixedText →
        Ruler.terminal.Subadditive run ∧ Ruler.terminal.Subadditive (run ++ [['…']])) ∧
      (∀ width ∈ [44, 40, 36], Ruler.terminal.Subadditive
        [head .unicode taggedMerge, [' '], (printer width).shown taggedMerge]) ∧
      Ruler.terminal.width ((printer 44).format taggedMerge) ≤ max 44 39 ∧
      (printer 44).format taggedMerge = "● ╮ 03000000 2023-11-14 (main, tag: v1) \u200b中e\u0301…".toList ∧
      (printer 40).format taggedMerge = "● ╮ 03000000 2023-11-14 (main, tag: v1)".toList ∧
      ¬Ruler.terminal.width ((printer 36).format taggedMerge) ≤ 36 := by
  intro printer
  have space : Ruler.terminal.width [' '] ≤ 1 := by decide +kernel
  have beside : ∀ run, run <+: Ruler.terminal.clusters Ruler.mixedText →
      Ruler.terminal.Subadditive run ∧ Ruler.terminal.Subadditive (run ++ [['…']]) := by
    simp only [← List.mem_inits]
    decide +kernel
  have joined : ∀ width ∈ [44, 40, 36], Ruler.terminal.Subadditive
      [head .unicode taggedMerge, [' '], (printer width).shown taggedMerge] := by decide +kernel
  have measured : Ruler.terminal.width (head .unicode taggedMerge) = 39 := by decide +kernel
  obtain ⟨-, -, roomy, -, narrow, -⟩ :=
    line_takes_its_room (printer 44) taggedMerge space beside (joined 44 (by decide))
  obtain ⟨-, full, -⟩ := line_takes_its_room (printer 40) taggedMerge space beside (joined 40 (by decide))
  obtain ⟨-, -, -, -, -, fits⟩ := line_takes_its_room (printer 36) taggedMerge space beside (joined 36 (by decide))
  have cut : (printer 44).format taggedMerge =
      head .unicode taggedMerge ++ [' '] ++ Ruler.terminal.truncate Ruler.mixedText (44 - 39 - 1) ['…'] :=
    measured ▸ roomy (show Ruler.terminal.width (head .unicode taggedMerge) + 1 < 44 by rw [measured]; decide)
  have within : Ruler.terminal.width ((printer 44).format taggedMerge) ≤ max 44 39 := measured ▸ narrow
  have bare : (printer 40).format taggedMerge = head .unicode taggedMerge :=
    full (show 40 ≤ Ruler.terminal.width (head .unicode taggedMerge) + 1 by rw [measured])
  have wide : ¬Ruler.terminal.width (head .unicode taggedMerge) ≤ 36 := by
    rw [measured]
    decide
  exact ⟨space, beside, joined, within, cut.trans (by decide +kernel), bare.trans (by decide +kernel), mt fits.mp wide⟩

end CommitLanes.Printer
