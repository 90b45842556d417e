import CommitLanes.Printer
import CommitLanes.Proofs.Layout.Window

/-! What the cells of a row show.

A row is drawn in three goes, and each of them writes over what was there. No write misses the
row, whatever the row is like. That nothing is ever hidden holds for the rows of a layout only:
there a line that goes by has its lane to itself, and the node stands on the lowest of the lanes
that come in.
-/

set_option autoImplicit false

namespace CommitLanes

namespace Printer

variable (glyphs : Glyphs) (row : Layout.Row)

def drawFork (node : Lane) (cells : Text) (lane : Lane) : Text :=
  if lane = node then cells
  else cells.set lane (if node < lane then glyphs.forkRight else glyphs.forkLeft)

def drawEdge (cells : Text) (edge : Edge) : Text :=
  match edgeGlyph? glyphs row edge with
  | some glyph => cells.set edge.origin glyph
  | none => cells

section Bounds

variable {cells : Text} {lane : Lane}

theorem write?_of_lt (inside : lane < cells.length) (glyph : Char) :
    write? cells lane glyph = some (cells.set lane glyph) :=
  if_pos inside

theorem drawFork?_of_lt {node : Lane} (inside : lane < cells.length) :
    drawFork? glyphs node cells lane = some (drawFork glyphs node cells lane) := by
  unfold drawFork? drawFork
  split
  · rfl
  · exact write?_of_lt inside _

theorem drawEdge?_of_lt {edge : Edge} (inside : edge.origin < cells.length) :
    drawEdge? glyphs row cells edge = some (drawEdge glyphs row cells edge) := by
  rw [drawEdge?, List.getElem?_eq_getElem inside, Option.bind_eq_bind, Option.bind_some, write?_of_lt inside, drawEdge]
  cases edgeGlyph? glyphs row edge with
  | some glyph => rfl
  | none => rw [Option.getD_none, List.set_getElem_self]

theorem length_drawFork (node : Lane) (cells : Text) (lane : Lane) :
    (drawFork glyphs node cells lane).length = cells.length := by
  unfold drawFork
  split <;> simp

theorem length_drawEdge (cells : Text) (edge : Edge) : (drawEdge glyphs row cells edge).length = cells.length := by
  unfold drawEdge
  split <;> simp

theorem foldlM_of_within {α : Type} {step? : Text → α → Option Text} {step : Text → α → Text} (laneOf : α → Lane)
    (within : ∀ (cells : Text) (item : α), laneOf item < cells.length → step? cells item = some (step cells item))
    (keeps : ∀ (cells : Text) (item : α), (step cells item).length = cells.length)
    {items : List α} (inside : ∀ item ∈ items, laneOf item < cells.length) :
    items.foldlM step? cells = some (items.foldl step cells) ∧ (items.foldl step cells).length = cells.length := by
  induction items generalizing cells with
  | nil => exact ⟨rfl, rfl⟩
  | cons item rest ih =>
      obtain ⟨here, later⟩ := List.forall_mem_cons.mp inside
      obtain ⟨same, length⟩ := @ih (step cells item) (by rwa [keeps])
      rw [List.foldlM_cons, within cells item here]
      exact ⟨same, length.trans (keeps cells item)⟩

/-- Every write of a drawing goes to a cell of the row. -/
theorem cells?_eq : cells? glyphs row = some (Printer.cells glyphs row) ∧
    (Printer.cells glyphs row).length = row.width := by
  obtain ⟨entering, leaving, node⟩ := (Layout.Row.width_le_iff row row.width).mp (Nat.le_refl _)
  let blank : Text := List.replicate row.width ' '
  obtain ⟨forked, wide⟩ := @foldlM_of_within blank _ (drawFork? glyphs row.lane) (drawFork glyphs row.lane) id
    (fun _ _ => drawFork?_of_lt glyphs) (length_drawFork glyphs row.lane) row.parentLanes (by simpa [blank] using leaving)
  have wide := wide.trans List.length_replicate
  obtain ⟨crossed, still⟩ := foldlM_of_within Edge.origin (fun _ _ => drawEdge?_of_lt glyphs row)
    (length_drawEdge glyphs row) fun edge member => Nat.lt_of_lt_of_eq (entering edge member).1 wide.symm
  have still := still.trans wide
  refine ⟨?_, List.length_set.trans still⟩
  rw [cells?, forked, Option.bind_eq_bind, Option.bind_some, crossed, Option.bind_some]
  exact write?_of_lt (Nat.lt_of_lt_of_eq node still.symm) _

end Bounds

section Marks

/-- What a cell may show, whatever characters stand for it. There is none for an edge that comes
to the node from its left. -/
inductive Mark where
  | node
  | vertical
  | joinLeft
  | forkRight
  | forkLeft
  | blank
  deriving DecidableEq, Repr

def Glyphs.draw (glyphs : Glyphs) (node : Commit) : Mark → Char
  | .node => if node.isArtificial then glyphs.placeholder else glyphs.commit
  | .vertical => glyphs.vertical
  | .joinLeft => glyphs.joinLeft
  | .forkRight => glyphs.forkRight
  | .forkLeft => glyphs.forkLeft
  | .blank => ' '

def markAt (row : Layout.Row) (lane : Lane) : Mark :=
  if lane = row.lane then .node
  else if lane ∈ row.passing.map (·.origin) then .vertical
  else if lane ∈ row.incoming.map (·.origin) then .joinLeft
  else if lane ∈ row.parentLanes then if row.lane < lane then .forkRight else .forkLeft
  else .blank

variable {glyphs : Glyphs} {row : Layout.Row} {lane node : Lane}

theorem getElem?_drawFork (beside : lane ≠ node) (cells : Text) (other : Lane) :
    (drawFork glyphs node cells other)[lane]? =
      if other = lane then cells[lane]?.map fun _ => if node < lane then glyphs.forkRight else glyphs.forkLeft
      else cells[lane]? := by
  unfold drawFork
  by_cases same : other = lane
  · subst same
    rw [if_neg beside, if_pos rfl, List.getElem?_set_self']
    rfl
  · rw [if_neg same]
    split
    · rfl
    · exact List.getElem?_set_ne same

theorem getElem?_drawForks (beside : lane ≠ node) (cells : Text) (lanes : List Lane) :
    (drawForks glyphs node cells lanes)[lane]? =
      if lane ∈ lanes then cells[lane]?.map fun _ => if node < lane then glyphs.forkRight else glyphs.forkLeft
      else cells[lane]? := by
  change (lanes.foldl (drawFork glyphs node) cells)[lane]? = _
  induction lanes generalizing cells with
  | nil => rfl
  | cons other rest ih =>
      rw [List.foldl_cons, ih, getElem?_drawFork beside]
      by_cases same : other = lane
      · -- Written twice, the cell shows the same.
        simp [same, Function.comp_def]
      · simp [same, Ne.symm same]

theorem getElem?_drawEdge_of_ne {edge : Edge} (elsewhere : edge.origin ≠ lane) (cells : Text) :
    (drawEdge glyphs row cells edge)[lane]? = cells[lane]? := by
  unfold drawEdge
  split
  · exact List.getElem?_set_ne elsewhere
  · rfl

theorem getElem?_foldl_drawEdge {edges : List Edge} (elsewhere : lane ∉ edges.map (·.origin)) (cells : Text) :
    (edges.foldl (drawEdge glyphs row) cells)[lane]? = cells[lane]? := by
  induction edges generalizing cells with
  | nil => rfl
  | cons edge rest ih =>
      rw [List.map_cons, List.mem_cons, not_or] at elsewhere
      rw [List.foldl_cons, ih elsewhere.2, getElem?_drawEdge_of_ne (Ne.symm elsewhere.1)]

theorem getElem?_drawEdges_of_notMem (elsewhere : lane ∉ row.edges.map (·.origin)) (cells : Text) :
    (drawEdges glyphs row cells)[lane]? = cells[lane]? :=
  getElem?_foldl_drawEdge elsewhere cells

/-- An edge that has its lane to itself is neither drawn over nor does it draw over another. -/
theorem getElem?_drawEdges_of_mem (apart : (row.edges.map (·.origin)).Nodup) {edge : Edge} {glyph : Char}
    (member : edge ∈ row.edges) (shows : edgeGlyph? glyphs row edge = some glyph) (cells : Text) :
    (drawEdges glyphs row cells)[edge.origin]? = cells[edge.origin]?.map fun _ => glyph := by
  obtain ⟨before, behind, split⟩ := List.append_of_mem member
  rw [split, List.map_append, List.map_cons] at apart
  obtain ⟨-, later, disjoint⟩ := List.nodup_append.mp apart
  have notBefore : edge.origin ∉ before.map (·.origin) := fun again =>
    disjoint _ again _ List.mem_cons_self rfl
  have notBehind : edge.origin ∉ behind.map (·.origin) := (List.nodup_cons.mp later).1
  change (row.edges.foldl (drawEdge glyphs row) cells)[edge.origin]? = _
  rw [split, List.foldl_append, List.foldl_cons, getElem?_foldl_drawEdge notBehind, drawEdge, shows,
    List.getElem?_set_self', getElem?_foldl_drawEdge notBefore]
  rfl

theorem getElem?_cells_of_ne (beside : lane ≠ row.lane) :
    (cells glyphs row)[lane]? =
      (drawEdges glyphs row (drawForks glyphs row.lane (List.replicate row.width ' ') row.parentLanes))[lane]? :=
  List.getElem?_set_ne (Ne.symm beside)

end Marks

end Printer

/-- The node is not to the right of an edge that comes in. -/
theorem Layout.Laid.lane_le {layout next : Layout} {node : Commit} {row : Layout.Row}
    (laid : Layout.Laid layout node row next) {edge : Edge} (arrives : edge ∈ row.incoming) : row.lane ≤ edge.origin := by
  obtain ⟨member, target⟩ := Layout.Row.mem_incoming.mp arrives
  rw [laid.edges] at member
  obtain ⟨before, inside, rfl⟩ := List.mem_map.mp member
  rw [laid.here, Edge.target_arriving] at target
  rw [Edge.origin_arriving]
  exact laid.landing.lowest before inside target

namespace Printer

section Faithful

variable {layout next : Layout} {node : Commit} {row : Layout.Row} {lane : Lane}

theorem edgeGlyph?_of_passing {edge : Edge} (passes : edge ∈ row.passing) (glyphs : Glyphs) :
    edgeGlyph? glyphs row edge = some glyphs.vertical :=
  if_pos (Layout.Row.mem_passing.mp passes).2

theorem edgeGlyph?_of_incoming {edge : Edge} (arrives : edge ∈ row.incoming) (right : row.lane < edge.origin)
    (glyphs : Glyphs) : edgeGlyph? glyphs row edge = some glyphs.joinLeft := by
  rw [edgeGlyph?, if_neg (not_not.mpr (Layout.Row.mem_incoming.mp arrives).2), if_pos right]

theorem mem_origins_iff :
    lane ∈ row.edges.map (·.origin) ↔ lane ∈ row.passing.map (·.origin) ∨ lane ∈ row.incoming.map (·.origin) := by
  simp only [List.mem_map, Layout.Row.mem_passing, Layout.Row.mem_incoming, ← exists_or]
  refine exists_congr fun edge => ?_
  by_cases arrives : edge.target = row.node.id <;> simp [arrives]

/-- A cell shows what its lane has. -/
theorem getElem?_cells (laid : Layout.Laid layout node row next) (settled : layout.Settled) (glyphs : Glyphs)
    (inside : lane < row.width) : (cells glyphs row)[lane]? = some (glyphs.draw row.node (markAt row lane)) := by
  have apart := (laid.exclusive settled).apart
  have blank : (List.replicate row.width ' ')[lane]? = some ' ' := by
    rw [List.getElem?_replicate, if_pos inside]
  by_cases here : lane = row.lane
  · have drawn := (cells?_eq glyphs row).2
    rw [cells, List.length_set] at drawn
    rw [markAt, if_pos here, cells, here, List.getElem?_set_self (by rw [drawn, ← here]; exact inside)]
    rfl
  · rw [markAt, if_neg here, getElem?_cells_of_ne here]
    by_cases passes : lane ∈ row.passing.map (·.origin)
    · obtain ⟨edge, passing, rfl⟩ := List.mem_map.mp passes
      rw [if_pos passes, getElem?_drawEdges_of_mem apart (Layout.Row.mem_passing.mp passing).1
        (edgeGlyph?_of_passing passing glyphs), getElem?_drawForks here, blank]
      split <;> rfl
    · rw [if_neg passes]
      by_cases comes : lane ∈ row.incoming.map (·.origin)
      · obtain ⟨edge, arrives, rfl⟩ := List.mem_map.mp comes
        -- On the node's own lane it would be hidden, and it never comes from further left.
        have right : row.lane < edge.origin := Nat.lt_of_le_of_ne (laid.lane_le arrives) (Ne.symm here)
        rw [if_pos comes, getElem?_drawEdges_of_mem apart (Layout.Row.mem_incoming.mp arrives).1
          (edgeGlyph?_of_incoming arrives right glyphs), getElem?_drawForks here, blank]
        split <;> rfl
      · have none : lane ∉ row.edges.map (·.origin) := fun member =>
          (mem_origins_iff.mp member).elim passes comes
        rw [if_neg comes, getElem?_drawEdges_of_notMem none, getElem?_drawForks here, blank]
        split
        · split <;> rfl
        · rfl

theorem markAt_eq_vertical_iff (laid : Layout.Laid layout node row next) (settled : layout.Settled) :
    markAt row lane = .vertical ↔ ∃ edge ∈ row.passing, edge.origin = lane := by
  unfold markAt
  by_cases here : lane = row.lane
  · rw [if_pos here]
    refine iff_of_false nofun ?_
    rintro ⟨edge, passing, rfl⟩
    exact ((laid.exclusive settled).passing edge passing).2.1 here
  · rw [if_neg here, ← List.mem_map]
    by_cases passes : lane ∈ row.passing.map (·.origin)
    · rw [if_pos passes]
      exact iff_of_true rfl passes
    · rw [if_neg passes]
      refine iff_of_false ?_ passes
      repeat' split
      all_goals nofun

theorem cells_eq (laid : Layout.Laid layout node row next) (settled : layout.Settled) (glyphs : Glyphs) :
    cells glyphs row = (List.range row.width).map fun lane => glyphs.draw row.node (markAt row lane) := by
  have length := (cells?_eq glyphs row).2
  apply List.ext_getElem?
  intro lane
  by_cases inside : lane < row.width
  · rw [getElem?_cells laid settled glyphs inside, List.getElem?_map, List.getElem?_range inside]
    rfl
  · have outside := Nat.le_of_not_lt inside
    rw [List.getElem?_eq_none (length ▸ outside), List.getElem?_eq_none (by simpa using outside)]

theorem getElem?_lanes (glyphs : Glyphs) (row : Layout.Row) (lane : Lane) :
    (lanes glyphs row)[2 * lane]? = (cells glyphs row)[lane]? ∧
      (lanes glyphs row)[2 * lane + 1]? = (cells glyphs row)[lane]?.map fun _ => ' ' := by
  unfold lanes
  generalize cells glyphs row = cells
  induction cells generalizing lane with
  | nil => simp
  | cons cell rest ih =>
      cases lane with
      | zero => simp
      | succ lane => simpa [Nat.mul_add] using ih lane

theorem length_lanes (glyphs : Glyphs) (row : Layout.Row) : (lanes glyphs row).length = 2 * row.width := by
  have double : ∀ cells : Text, (cells.flatMap fun cell => [cell, ' ']).length = 2 * cells.length := by
    intro cells
    induction cells with
    | nil => rfl
    | cons cell rest ih => simp only [List.flatMap_cons, List.length_append, ih, List.length_cons, List.length_nil]; omega
  rw [lanes, double, (cells?_eq glyphs row).2]

end Faithful

/-- Every row can be drawn, with a cell and a space for each of its lanes. In a row of a layout each
cell shows what its lane has. A line that goes by is never hidden and hides nothing, and no edge
comes to a node from its left. -/
theorem drawing_is_faithful (glyphs : Glyphs) :
    (∀ row : Layout.Row, cells? glyphs row = some (cells glyphs row) ∧ (cells glyphs row).length = row.width ∧
      (lanes glyphs row).length = 2 * row.width ∧
      ∀ lane, (lanes glyphs row)[2 * lane]? = (cells glyphs row)[lane]? ∧
        (lanes glyphs row)[2 * lane + 1]? = (cells glyphs row)[lane]?.map fun _ => ' ') ∧
    ∀ (window : Option Nat) (moves : List Layout.Move) (node : Commit),
      let row := ((Layout.after window moves).push node).1
      (∀ lane < row.width, (cells glyphs row)[lane]? = some (glyphs.draw node (markAt row lane))) ∧
      (∀ lane, markAt row lane = .vertical ↔ ∃ edge ∈ row.passing, edge.origin = lane) ∧
      (∀ edge ∈ row.passing, edge.terminal = edge.origin ∧ edge.origin ≠ row.lane ∧ edge.origin ∉ row.parentLanes ∧
        ∀ other ∈ row.incoming, other.origin ≠ edge.origin) ∧
      ∀ joinRight, cells { glyphs with joinRight } row = cells glyphs row := by
  refine ⟨fun row => ?_, fun window moves node => ?_⟩
  · obtain ⟨within, length⟩ := cells?_eq glyphs row
    exact ⟨within, length, length_lanes glyphs row, getElem?_lanes glyphs row⟩
  · intro row
    have settled := Layout.settled_after window moves
    have laid := Layout.laid_push settled node
    have exclusive := laid.exclusive settled
    refine ⟨fun lane inside => ?_, fun lane => markAt_eq_vertical_iff laid settled, fun edge passes => ?_, fun other => ?_⟩
    · rw [getElem?_cells laid settled glyphs inside, laid.here]
    · obtain ⟨-, beside, branch⟩ := exclusive.passing edge passes
      refine ⟨laid.passing_straight settled edge passes, beside, branch, fun other arrives same => ?_⟩
      obtain ⟨inside, away⟩ := Layout.Row.mem_passing.mp passes
      obtain ⟨within, target⟩ := Layout.Row.mem_incoming.mp arrives
      exact away (List.inj_on_of_nodup_map exclusive.apart within inside same ▸ target)
    · rw [cells_eq laid settled, cells_eq laid settled]
      rfl

/-- A merge, its second parent and the commit where the two lines meet again. -/
example :
    ((Layout.start none).pushAll [Layout.sampleNode 3 [1, 2], Layout.sampleNode 2 [1], Layout.sampleNode 1 []]).1.map
      (lanes .ascii) = [['*', ' ', '\\', ' '], ['|', ' ', '*', ' '], ['*', ' ', '/', ' ']] := by
  decide +kernel

end Printer

end CommitLanes
