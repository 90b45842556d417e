import CommitLanes.Proofs.Decimal
import CommitLanes.Proofs.ObjectId
import CommitLanes.Proofs.Printer.Cells
import CommitLanes.Proofs.Text.Ruler

/-! A row takes one line.

Lanes, id and date are drawn and spelled without a newline. Only the names of the refs and the
subject come from outside, and cutting a subject brings nothing in but the ellipsis.
-/

set_option autoImplicit false

namespace CommitLanes

section Parts

variable {c : Char}

theorem Text.mem_of_mem_joined {separator : Text} {texts : List Text} (member : c ∈ joined separator texts) :
    c ∈ separator ∨ ∃ text ∈ texts, c ∈ text := by
  fun_induction joined separator texts with
  | case1 => cases member
  | case2 only => exact .inr ⟨only, List.mem_singleton_self only, member⟩
  | case3 first rest _ ih =>
      rcases List.mem_append.mp member with front | later
      · exact (List.mem_append.mp front).symm.imp_right fun inside => ⟨first, List.mem_cons_self, inside⟩
      · exact (ih later).imp_right fun ⟨text, among, inside⟩ => ⟨text, List.mem_cons_of_mem _ among, inside⟩

theorem ObjectId.newline_notMem_short (id : ObjectId) : '\n' ∉ id.short := by
  intro member
  have byte : 0x0A ∈ id.hex.utf8 := List.mem_flatMap.mpr ⟨'\n', List.mem_of_mem_take member, by decide⟩
  exact absurd (le_of_mem_hex byte) (by decide)

theorem Decimal.newline_notMem_padded (width n : Nat) : '\n' ∉ padded width n := by
  intro member
  rcases List.mem_append.mp member with zero | digit
  · exact absurd (List.eq_of_mem_replicate zero) (by decide)
  · exact absurd (isDigit_of_mem_ofNat digit) (by decide)

theorem Calendar.newline_notMem_yearText (year : Int) : '\n' ∉ yearText year := by
  unfold yearText
  split
  · exact Decimal.newline_notMem_padded _ _
  · refine List.not_mem_cons_of_ne_of_not_mem ?_ (Decimal.newline_notMem_padded _ _)
    split <;> decide

theorem Calendar.Date.newline_notMem_text (date : Date) : '\n' ∉ date.text := by
  intro member
  rcases Text.mem_of_mem_joined member with dash | ⟨text, among, inside⟩
  · exact absurd dash (by decide)
  · simp only [List.mem_cons, List.not_mem_nil, or_false] at among
    rcases among with rfl | rfl | rfl
    · exact newline_notMem_yearText _ inside
    · exact Decimal.newline_notMem_padded _ _ inside
    · exact Decimal.newline_notMem_padded _ _ inside

namespace Ruler

variable {ruler : Ruler}

/-- A ruler that loses nothing between clusters brings in nothing but the ellipsis. -/
theorem mem_of_mem_truncate {text ellipsis : Text} {columns : Nat}
    (whole : (ruler.clusters text).flatten = text) (member : c ∈ ruler.truncate text columns ellipsis) :
    c ∈ text ∨ c ∈ ellipsis := by
  have kept : ∀ budget, c ∈ (ruler.fitting budget (ruler.clusters text)).flatten → c ∈ text := by
    intro budget inside
    obtain ⟨cluster, among, inside⟩ := List.mem_flatten.mp inside
    rw [← whole]
    exact List.mem_flatten.mpr ⟨cluster, (ruler.longestWithin_fitting budget _).starts.subset among, inside⟩
  unfold truncate at member
  split at member
  · exact .inl member
  · dsimp only at member
    split at member
    · exact (List.mem_append.mp member).imp_left (kept _)
    · exact .inl (kept _ member)

end Ruler

end Parts

namespace Printer

variable {glyphs : Glyphs} {row : Layout.Row} {printer : Printer}

def Glyphs.characters (glyphs : Glyphs) : Text :=
  [' ', glyphs.commit, glyphs.placeholder, glyphs.vertical, glyphs.joinLeft, glyphs.joinRight, glyphs.forkRight,
    glyphs.forkLeft]

theorem forall_mem_set {chars cells : Text} {lane : Lane} {glyph : Char} (known : ∀ c ∈ cells, c ∈ chars)
    (drawn : glyph ∈ chars) : ∀ c ∈ cells.set lane glyph, c ∈ chars := fun c member =>
  (List.mem_or_eq_of_mem_set member).elim (known c) fun same => same ▸ drawn

theorem mem_of_edgeGlyph? {edge : Edge} {glyph : Char} (shows : edgeGlyph? glyphs row edge = some glyph) :
    glyph ∈ glyphs.characters := by
  unfold edgeGlyph? at shows
  repeat' split at shows
  all_goals simp_all [Glyphs.characters]

theorem forall_mem_drawFork {cells : Text} {node lane : Lane} (known : ∀ c ∈ cells, c ∈ glyphs.characters) :
    ∀ c ∈ drawFork glyphs node cells lane, c ∈ glyphs.characters := by
  unfold drawFork
  split
  · exact known
  · refine forall_mem_set known ?_
    split <;> simp [Glyphs.characters]

theorem forall_mem_drawEdge {cells : Text} {edge : Edge} (known : ∀ c ∈ cells, c ∈ glyphs.characters) :
    ∀ c ∈ drawEdge glyphs row cells edge, c ∈ glyphs.characters := by
  unfold drawEdge
  split
  next glyph shows => exact forall_mem_set known (mem_of_edgeGlyph? shows)
  · exact known

theorem mem_of_mem_cells {c : Char} (member : c ∈ cells glyphs row) : c ∈ glyphs.characters := by
  have empty : ∀ c ∈ List.replicate row.width ' ', c ∈ glyphs.characters := fun c blank =>
    List.eq_of_mem_replicate blank ▸ List.mem_cons_self
  have forked := List.foldlRecOn (motive := fun cells => ∀ c ∈ cells, c ∈ glyphs.characters) row.parentLanes
    (drawFork glyphs row.lane) empty fun _ known _ _ => forall_mem_drawFork known
  have crossed := List.foldlRecOn (motive := fun cells => ∀ c ∈ cells, c ∈ glyphs.characters) row.edges
    (drawEdge glyphs row) forked fun _ known _ _ => forall_mem_drawEdge known
  refine forall_mem_set crossed ?_ c member
  split <;> simp [Glyphs.characters]

theorem newline_notMem_lanes (drawn : '\n' ∉ glyphs.characters) (row : Layout.Row) : '\n' ∉ lanes glyphs row := by
  intro member
  obtain ⟨cell, among, here⟩ := List.mem_flatMap.mp member
  simp only [List.mem_cons, List.not_mem_nil, or_false] at here
  rcases here with rfl | space
  · exact drawn (mem_of_mem_cells among)
  · exact absurd space (by decide)

theorem newline_notMem_dateLabel (commit : Commit) : '\n' ∉ dateLabel commit := by
  unfold dateLabel
  repeat' split
  · simp
  · exact List.not_mem_cons_of_ne_of_not_mem (by decide) (Calendar.Date.newline_notMem_text _)
  · simp

theorem newline_notMem_decorations {refs : List Ref} (named : ∀ ref ∈ refs, '\n' ∉ ref.name) :
    '\n' ∉ decorations refs := by
  unfold decorations
  split
  · simp
  · have labels : '\n' ∉ Text.joined [',', ' '] (refs.map refLabel) := by
      intro member
      rcases Text.mem_of_mem_joined member with comma | ⟨label, among, inside⟩
      · exact absurd comma (by decide)
      · obtain ⟨ref, shown, rfl⟩ := List.mem_map.mp among
        unfold refLabel at inside
        split at inside
        · exact (List.mem_append.mp inside).elim (by decide) (named ref shown)
        · exact named ref shown inside
    simp only [List.mem_append, not_or]
    exact ⟨⟨by decide, labels⟩, by decide⟩

/-- A row is printed on one line, however narrow, if its subject and the names of its refs are. -/
theorem newline_notMem_format (drawn : '\n' ∉ printer.glyphs.characters ++ printer.glyphs.ellipsis)
    (whole : (printer.ruler.clusters row.node.subject).flatten = row.node.subject)
    (named : ∀ ref ∈ row.node.refs, '\n' ∉ ref.name) (oneLine : '\n' ∉ row.node.subject) :
    '\n' ∉ printer.format row := by
  obtain ⟨plain, dots⟩ := not_or.mp (mt List.mem_append.mpr drawn)
  have front : '\n' ∉ head printer.glyphs row := by
    simp only [head, List.mem_append, not_or]
    exact ⟨⟨⟨newline_notMem_lanes plain row, row.node.id.newline_notMem_short⟩, newline_notMem_dateLabel _⟩,
      newline_notMem_decorations named⟩
  unfold format
  dsimp only
  split
  · intro member
    rcases List.mem_append.mp member with inside | subject
    · exact front inside
    · rcases List.mem_cons.mp subject with space | inside
      · exact absurd space (by decide)
      · exact (Ruler.mem_of_mem_truncate whole inside).elim oneLine dots
  · exact front

end Printer

end CommitLanes
