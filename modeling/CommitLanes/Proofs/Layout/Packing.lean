import CommitLanes.Proofs.Layout.Exclusivity

/-! No layout is narrower.

The lines that cross a row, above its node or below, need a lane each: that is the demand of
the row. A row is at least as wide as its demand. It may be wider, when a line that was pushed
out by an earlier crowd has stayed there, but never wider than the greatest demand so far.
-/

set_option autoImplicit false

namespace CommitLanes.Layout

namespace Row

/-- The lines that enter the row, with the node's own place where none of them ends at it. -/
def demandAbove (row : Row) : Nat :=
  row.edges.length + if row.incoming = [] then 1 else 0

def demandBelow (row : Row) : Nat :=
  row.passing.length + row.parentLanes.length

def demand (row : Row) : Nat :=
  max row.demandAbove row.demandBelow

/-- Some way to draw the lines of a row, any two that are live together on different lanes. -/
structure Drawing (row : Row) (columns : Nat) where
  entering : List Lane
  node : Lane
  passing : List Lane
  opened : List Lane
  length_entering : entering.length = row.edges.length
  length_passing : passing.length = row.passing.length
  length_opened : opened.length = row.parentLanes.length
  above : entering.Nodup
  beside : row.incoming = [] → node ∉ entering
  below : (passing ++ opened).Nodup
  inside : ∀ lane ∈ node :: entering ++ passing ++ opened, lane < columns

theorem Drawing.length_le {lanes : List Lane} {columns : Nat} (distinct : lanes.Nodup)
    (inside : ∀ lane ∈ lanes, lane < columns) : lanes.length ≤ columns :=
  Nat.le_trans (Lane.length_le_span distinct) ((Lane.span_le_iff lanes columns).mpr inside)

theorem Drawing.demand_le {row : Row} {columns : Nat} (drawing : row.Drawing columns) : row.demand ≤ columns := by
  have inside := drawing.inside
  simp only [List.cons_append, List.forall_mem_cons, List.forall_mem_append] at inside
  obtain ⟨node, ⟨entering, passing⟩, opened⟩ := inside
  refine Nat.max_le.mpr ⟨?_, ?_⟩
  · unfold demandAbove
    split
    next alone =>
      have distinct : (drawing.node :: drawing.entering).Nodup :=
        List.nodup_cons.mpr ⟨drawing.beside alone, drawing.above⟩
      have bound := length_le distinct (List.forall_mem_cons.mpr ⟨node, entering⟩)
      rwa [List.length_cons, drawing.length_entering] at bound
    next =>
      have bound := length_le drawing.above entering
      rwa [drawing.length_entering] at bound
  · have bound := length_le drawing.below (List.forall_mem_append.mpr ⟨passing, opened⟩)
    rwa [List.length_append, drawing.length_passing, drawing.length_opened] at bound

def peak (rows : List Row) : Nat :=
  rows.foldr (fun row most => max row.demand most) 0

theorem demand_le_peak {row : Row} {rows : List Row} (member : row ∈ rows) : row.demand ≤ peak rows := by
  induction rows with
  | nil => cases member
  | cons first rest ih =>
      rcases List.mem_cons.mp member with rfl | later
      · exact Nat.le_max_left _ _
      · exact Nat.le_trans (ih later) (Nat.le_max_right _ _)

theorem peak_le {rows : List Row} {most : Nat} (bound : ∀ row ∈ rows, row.demand ≤ most) : peak rows ≤ most := by
  induction rows with
  | nil => exact Nat.zero_le most
  | cons first rest ih =>
      obtain ⟨head, tail⟩ := List.forall_mem_cons.mp bound
      exact Nat.max_le.mpr ⟨head, ih tail⟩

end Row

section Step

variable {layout next : Layout} {node : Commit} {row : Row} {most : Nat}

def Row.Exclusive.drawing (exclusive : row.Exclusive) (below : (row.passing.map (·.origin) ++ row.parentLanes).Nodup)
    {columns : Nat} (wide : row.width ≤ columns) : row.Drawing columns where
  entering := row.edges.map (·.origin)
  node := row.lane
  passing := row.passing.map (·.origin)
  opened := row.parentLanes
  length_entering := List.length_map _
  length_passing := List.length_map _
  length_opened := rfl
  above := exclusive.apart
  beside := fun none member => by
    obtain ⟨edge, inside, same⟩ := List.mem_map.mp member
    exact (exclusive.alone none edge inside).1 same
  below := below
  inside := by
    obtain ⟨edges, parents, lane⟩ := (Row.width_le_iff row columns).mp wide
    simp only [List.cons_append, List.forall_mem_cons, List.forall_mem_append, List.forall_mem_map]
    exact ⟨lane, ⟨fun edge member => (edges edge member).1,
      fun edge member => (edges edge (Row.mem_passing.mp member).1).1⟩, parents⟩

def Within (layout : Layout) (most : Nat) : Prop :=
  ∀ edge ∈ layout.ledger.edges, edge.origin < most

theorem Within.mono {more : Nat} (within : layout.Within most) (le : most ≤ more) : layout.Within more :=
  fun edge member => Nat.lt_of_lt_of_le (within edge member) le

theorem Laid.origin_lt (laid : Laid layout node row next) (within : layout.Within most) :
    ∀ edge ∈ row.edges, edge.origin < most := by
  rw [laid.edges]
  intro edge member
  obtain ⟨before, inside, rfl⟩ := List.mem_map.mp member
  rw [Edge.origin_arriving]
  exact within before inside

theorem Laid.lane_lt (laid : Laid layout node row next) (within : layout.Within most)
    (enough : row.demand ≤ most) : row.lane < most := by
  by_cases alone : ∀ edge ∈ layout.ledger.edges, edge.target ≠ node.id
  · -- A lane that is taken anew lies behind at most as many lines as there are.
    have none : row.incoming = [] := by
      rw [List.eq_nil_iff_forall_not_mem]
      intro edge arrives
      obtain ⟨member, target⟩ := Row.mem_incoming.mp arrives
      rw [laid.edges] at member
      obtain ⟨before, inside, rfl⟩ := List.mem_map.mp member
      rw [Edge.target_arriving, laid.here] at target
      exact alone before inside target
    have free := (laid.landing.free alone).le_length
    rw [← laid.origins_eq, List.length_map] at free
    have above : row.edges.length + 1 ≤ row.demand := by
      have part : row.demandAbove ≤ row.demand := Nat.le_max_left _ _
      rwa [Row.demandAbove, if_pos none] at part
    exact Nat.lt_of_lt_of_le (Nat.lt_succ_of_le free) (Nat.le_trans above enough)
  · obtain ⟨edge, inside, -, origin⟩ := laid.landing.arrives (by simpa using alone)
    exact origin ▸ within edge inside

theorem Laid.parentLane_lt (laid : Laid layout node row next) (within : layout.Within most)
    (enough : row.demand ≤ most) : ∀ lane ∈ row.parentLanes, lane < most := by
  intro lane member
  rcases laid.branching.lt member with rfl | inside
  · exact laid.lane_lt within enough
  · have below : row.demandBelow ≤ row.demand := Nat.le_max_right _ _
    rw [List.length_map] at inside
    exact Nat.lt_of_lt_of_le inside (Nat.le_trans below enough)

theorem Laid.width_le (laid : Laid layout node row next) (settled : layout.Settled)
    (within : layout.Within most) (enough : row.demand ≤ most) : row.width ≤ most := by
  refine (Row.width_le_iff row most).mpr ⟨?_, laid.parentLane_lt within enough, laid.lane_lt within enough⟩
  intro edge member
  have enters := laid.origin_lt within edge member
  refine ⟨enters, ?_⟩
  by_cases arrives : edge.target = row.node.id
  · rw [laid.terminal_incoming (Row.mem_incoming.mpr ⟨member, arrives⟩)]
    exact laid.lane_lt within enough
  · rwa [laid.passing_straight settled edge (Row.mem_passing.mpr ⟨member, arrives⟩)]

theorem Laid.within (laid : Laid layout node row next) (within : layout.Within most)
    (enough : row.demand ≤ most) : next.Within most := by
  intro edge member
  rw [laid.next_edges] at member
  rcases List.mem_append.mp member with kept | own
  · exact laid.origin_lt within edge (Row.mem_passing.mp kept).1
  · apply laid.parentLane_lt within enough
    rw [← map_origin_ownEdges laid.paired]
    exact List.mem_map_of_mem own

theorem Laid.demand_le_width (laid : Laid layout node row next) (settled : layout.Settled) :
    row.demand ≤ row.width :=
  ((laid.exclusive settled).drawing (laid.distinct settled) (Nat.le_refl _)).demand_le

end Step

section Run

variable {layout : Layout} {most : Nat}

theorem maxWidth_push (layout : Layout) (node : Commit) :
    (layout.push node).2.maxWidth = max layout.maxWidth (layout.push node).1.width := by
  unfold push
  split <;> rfl

theorem maxWidth_pushAll_le_iff (layout : Layout) (nodes : List Commit) (columns : Nat) :
    (layout.pushAll nodes).2.maxWidth ≤ columns ↔
      layout.maxWidth ≤ columns ∧ ∀ row ∈ (layout.pushAll nodes).1, row.width ≤ columns := by
  induction nodes generalizing layout with
  | nil => simp [pushAll]
  | cons node rest ih =>
      rw [pushAll_cons, ih, maxWidth_push, Nat.max_le, List.forall_mem_cons, and_assoc]

/-- The lanes in use never reach beyond the greatest demand up to here. -/
theorem Settled.width_le_peak (settled : layout.Settled) (within : layout.Within most) (nodes : List Commit)
    {place : Nat} {row : Row} (found : (layout.pushAll nodes).1[place]? = some row) :
    row.width ≤ max most (Row.peak ((layout.pushAll nodes).1.take (place + 1))) := by
  -- What the rows so far have demanded goes over into the bound on the lanes in use.
  induction nodes generalizing layout most place with
  | nil => cases found
  | cons node rest ih =>
      have laid := laid_push settled node
      have earlier := within.mono (Nat.le_max_left most (layout.push node).1.demand)
      have enough := Nat.le_max_right most (layout.push node).1.demand
      rw [pushAll_cons] at found ⊢
      cases place with
      | zero =>
          cases found
          simpa [Row.peak] using laid.width_le settled earlier enough
      | succ place =>
          have bound := ih (settled.push node) (laid.within earlier enough) found
          rwa [List.take_succ_cons, Row.peak, List.foldr_cons, ← Nat.max_assoc]

/-- The width of a layout is the least on which all its rows can be drawn, and that is the
greatest number of lines live at one time. -/
theorem maxWidth_eq_peak (window : Option Nat) (nodes : List Commit) :
    let rows := ((start window).pushAll nodes).1
    let width := ((start window).pushAll nodes).2.maxWidth
    (∀ place row, rows[place]? = some row →
        row.demand ≤ row.width ∧ row.width ≤ Row.peak (rows.take (place + 1))) ∧
      width = Row.peak rows ∧
      (∀ row ∈ rows, Nonempty (row.Drawing width)) ∧
      ∀ columns, (∀ row ∈ rows, Nonempty (row.Drawing columns)) → width ≤ columns := by
  intro rows width
  have settled := settled_start window
  have demand_le : ∀ row ∈ rows, row.demand ≤ row.width := fun row member => by
    obtain ⟨before, node, next, settled, laid⟩ := settled.exists_laid member
    exact laid.demand_le_width settled
  have le_peak : ∀ place row, rows[place]? = some row → row.width ≤ Row.peak (rows.take (place + 1)) :=
    fun place row found => by
      have unused : (start window).Within 0 := fun edge member => by cases member
      have bound := settled.width_le_peak unused nodes found
      rwa [Nat.zero_max] at bound
  have width_le : ∀ row ∈ rows, row.width ≤ width :=
    ((maxWidth_pushAll_le_iff _ nodes width).mp (Nat.le_refl _)).2
  have exactly : width = Row.peak rows := by
    apply Nat.le_antisymm
    · refine (maxWidth_pushAll_le_iff _ nodes _).mpr ⟨Nat.zero_le _, fun row member => ?_⟩
      obtain ⟨place, found⟩ := List.mem_iff_getElem?.mp member
      refine Nat.le_trans (le_peak place row found) (Row.peak_le fun other kept => ?_)
      exact Row.demand_le_peak (List.mem_of_mem_take kept)
    · exact Row.peak_le fun row member => Nat.le_trans (demand_le row member) (width_le row member)
  refine ⟨fun place row found => ⟨demand_le row (List.mem_of_getElem? found), le_peak place row found⟩,
    exactly, fun row member => ?_, fun columns drawings => ?_⟩
  · obtain ⟨before, node, next, settled, laid⟩ := settled.exists_laid member
    exact ⟨(laid.exclusive settled).drawing (laid.distinct settled) (width_le row member)⟩
  · rw [exactly]
    exact Row.peak_le fun row member => (drawings row member).elim Row.Drawing.demand_le

end Run

end CommitLanes.Layout
