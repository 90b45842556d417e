import CommitLanes.Calendar
import CommitLanes.Layout.Row
import CommitLanes.Text.Ruler

/-! Rows as lines for a terminal.

A line has the lanes, the short id, the date and the refs, none of which is ever cut, and
as much of the subject as there is room for.
-/

set_option autoImplicit false

namespace CommitLanes

structure Printer.Glyphs where
  commit : Char
  placeholder : Char
  vertical : Char
  /-- An edge that comes to the node from its right. -/
  joinLeft : Char
  /-- An edge that comes to the node from its left. -/
  joinRight : Char
  forkRight : Char
  forkLeft : Char
  ellipsis : Text

structure Printer where
  glyphs : Printer.Glyphs
  width : Nat
  ruler : Ruler

namespace Printer

def Glyphs.unicode : Glyphs :=
  ⟨'●', '○', '│', '╯', '╰', '╮', '╭', ['…']⟩

def Glyphs.ascii : Glyphs :=
  ⟨'*', 'o', '|', '/', '\\', '\\', '/', ['.', '.', '.']⟩

/-- The cells with the parents' edges drawn. The one that goes straight down is hidden
behind the node. -/
def drawForks (glyphs : Glyphs) (node : Lane) (cells : Text) (parentLanes : List Lane) : Text :=
  parentLanes.foldl (fun cells lane =>
    if lane = node then cells
    else cells.set lane (if node < lane then glyphs.forkRight else glyphs.forkLeft)) cells

def edgeGlyph? (glyphs : Glyphs) (row : Layout.Row) (edge : Edge) : Option Char :=
  if edge.target ≠ row.node.id then some glyphs.vertical
  else if row.lane < edge.origin then some glyphs.joinLeft
  else if edge.origin < row.lane then some glyphs.joinRight
  else none

def drawEdges (glyphs : Glyphs) (row : Layout.Row) (cells : Text) : Text :=
  row.edges.foldl (fun cells edge =>
    match edgeGlyph? glyphs row edge with
    | some glyph => cells.set edge.origin glyph
    | none => cells) cells

def cells (glyphs : Glyphs) (row : Layout.Row) : Text :=
  let empty := List.replicate row.width ' '
  let drawn := drawEdges glyphs row (drawForks glyphs row.lane empty row.parentLanes)
  drawn.set row.lane (if row.node.isArtificial then glyphs.placeholder else glyphs.commit)

def lanes (glyphs : Glyphs) (row : Layout.Row) : Text :=
  (cells glyphs row).flatMap fun cell => [cell, ' ']

def refLabel (ref : Ref) : Text :=
  if ref.isTag then "tag: ".toList ++ ref.name else ref.name

def decorations (refs : List Ref) : Text :=
  if refs.isEmpty then []
  else " (".toList ++ Text.joined [',', ' '] (refs.map refLabel) ++ [')']

/-- Placeholders have no date, and neither has a moment beyond the calendar. -/
def dateLabel (commit : Commit) : Text :=
  if commit.isArtificial then []
  else match Calendar.ofSeconds? commit.commitDate with
    | some date => ' ' :: date.text
    | none => []

def head (glyphs : Glyphs) (row : Layout.Row) : Text :=
  lanes glyphs row ++ row.node.id.short ++ dateLabel row.node ++ decorations row.node.refs

def format (printer : Printer) (row : Layout.Row) : Text :=
  let head := head printer.glyphs row
  -- The space before the subject counts, so a subject is shown from one column of room on.
  let used := printer.ruler.width head + 1
  if used < printer.width then
    head ++ ' ' :: printer.ruler.truncate row.node.subject (printer.width - used)
      printer.glyphs.ellipsis
  else head

section Checked

/-! The same line with every cell and every difference checked. -/

variable (glyphs : Glyphs) (row : Layout.Row)

def write? (cells : Text) (lane : Lane) (glyph : Char) : Option Text :=
  if lane < cells.length then some (cells.set lane glyph) else none

def drawFork? (node : Lane) (cells : Text) (lane : Lane) : Option Text :=
  if lane = node then some cells
  else write? cells lane (if node < lane then glyphs.forkRight else glyphs.forkLeft)

/-- An edge that shows nothing writes back what it finds. -/
def drawEdge? (cells : Text) (edge : Edge) : Option Text := do
  let found ← cells[edge.origin]?
  write? cells edge.origin ((edgeGlyph? glyphs row edge).getD found)

def cells? : Option Text := do
  let forked ← row.parentLanes.foldlM (drawFork? glyphs row.lane) (List.replicate row.width ' ')
  let crossed ← row.edges.foldlM (drawEdge? glyphs row) forked
  write? crossed row.lane (if row.node.isArtificial then glyphs.placeholder else glyphs.commit)

def minus? (whole part : Nat) : Option Nat :=
  if part ≤ whole then some (whole - part) else none

def head? : Option Text :=
  (cells? glyphs row).map fun cells =>
    (cells.flatMap fun cell => [cell, ' ']) ++ row.node.id.short ++ dateLabel row.node ++ decorations row.node.refs

def format? (printer : Printer) (row : Layout.Row) : Option Text := do
  let head ← head? printer.glyphs row
  let used := printer.ruler.width head + 1
  if used < printer.width then
    (minus? printer.width used).map fun room =>
      head ++ ' ' :: printer.ruler.truncate row.node.subject room printer.glyphs.ellipsis
  else some head

end Checked

end Printer

end CommitLanes
