import CommitLanes.Proofs.Layout.Window

/-! A history behind the placeholders.

The working tree leads to the index and the index to the head, on one line that ends where the
head is laid out. From then on the same edges are open as without the placeholders. Their ids stay
at the far end of what is remembered until they are forgotten, and no commit asks for them.
-/

set_option autoImplicit false

namespace CommitLanes

structure Commit.Genuine (node : Commit) : Prop where
  id : node.id.isArtificial = false
  parents : ∀ parent ∈ node.parents, parent.isArtificial = false

instance (node : Commit) : Decidable node.Genuine :=
  decidable_of_iff (node.id.isArtificial = false ∧ ∀ parent ∈ node.parents, parent.isArtificial = false)
    ⟨fun both => ⟨both.1, both.2⟩, fun genuine => ⟨genuine.id, genuine.parents⟩⟩

namespace Layout

open Lane.Ledger (ofEdges)

section Memory

variable {window : Option Nat} {id : ObjectId} {seen ghosts : List ObjectId}

theorem exists_remember_append (window : Option Nat) (id : ObjectId) (seen ghosts : List ObjectId) :
    ∃ left ⊆ ghosts, remember window id (seen ++ ghosts) = remember window id seen ++ left := by
  cases window with
  | none => exact ⟨ghosts, List.Subset.refl _, rfl⟩
  | some size =>
      refine ⟨ghosts.take (size - (id :: seen).length), List.take_subset _ _, ?_⟩
      rw [remember, remember, ← List.cons_append, List.take_append]

end Memory

section Line

/-- The one line on which the first commits are threaded, as it leads to the next of them. -/
def lineTo (awaited : ObjectId) : List Edge :=
  [Edge.straight 0 awaited .firstParent]

variable {layout : Layout} {node : Commit} {lead : List Edge}

theorem laneFor_of_awaited (awaited : ∀ edge ∈ lead, edge = Edge.straight 0 node.id .firstParent) :
    laneFor (ofEdges lead) ((ofEdges lead).targeting node.id) = 0 := by
  have straight : ∀ edge ∈ lead, edge.terminal = edge.origin := fun edge member => by rw [awaited edge member]; rfl
  have landing := landing_laneFor straight node.id
  cases lead with
  | nil => exact Nat.le_zero.mp (landing.free nofun).le_length
  | cons edge rest =>
      obtain rfl := awaited edge List.mem_cons_self
      exact Nat.le_zero.mp (landing.lowest _ List.mem_cons_self rfl)

theorem push_of_awaited (new : node.id ∉ layout.seen) (ledger : layout.ledger = ofEdges lead)
    (awaited : ∀ edge ∈ lead, edge = Edge.straight 0 node.id .firstParent) :
    let seen := remember layout.window node.id layout.seen
    let opening := openParents (ofEdges []) seen node 0
    let row : Row := ⟨layout.rows, node, 0, lead, opening.parentLanes⟩
    layout.push node = (row,
      { ledger := if opening.parentLanes.isEmpty then (opening.ledger.clear 0).2 else opening.ledger
        seen
        window := layout.window
        rows := layout.rows + 1
        anomalies := layout.anomalies ++ opening.anomalies
        maxWidth := max layout.maxWidth row.width }) := by
  have led : lead.map (Edge.arriving node.id 0) = lead := by
    conv_rhs => rw [← List.map_id lead]
    refine List.map_congr_left fun edge member => ?_
    rw [awaited edge member]
    exact Edge.arriving_of_target rfl 0
  have closed : lead.filter (fun edge => edge.target ≠ node.id) = [] :=
    List.filter_eq_nil_iff.mpr fun edge member => by rw [awaited edge member]; simp [Edge.straight]
  have converged := Lane.Ledger.converge_targeting lead node.id 0
  have closing := Lane.Ledger.closeAt_arriving lead node.id 0
  rw [led] at converged closing
  rw [closed] at closing
  intro seen opening row
  rw [push, if_neg new, pushNew]
  simp only [ledger, laneFor_of_awaited awaited, converged, closing]
  rfl

theorem push_of_threaded {parent : ObjectId} (new : node.id ∉ layout.seen) (ledger : layout.ledger = ofEdges lead)
    (awaited : ∀ edge ∈ lead, edge = Edge.straight 0 node.id .firstParent) (only : node.parents = [parent])
    (unknown : parent ∉ (layout.push node).2.seen) :
    (layout.push node).1 = ⟨layout.rows, node, 0, lead, [0]⟩ ∧
      (layout.push node).2.ledger = ofEdges (lineTo parent) ∧
      (layout.push node).2.anomalies = layout.anomalies := by
  rw [seen_push, if_neg new] at unknown
  have opening : openParents (ofEdges []) (remember layout.window node.id layout.seen) node 0 =
      ⟨ofEdges (lineTo parent), [0], [parent], []⟩ := by
    rw [openParents, only, List.foldl_cons, List.foldl_nil, Opening.parent, if_neg unknown, if_neg List.not_mem_nil]
    simp only [List.isEmpty_nil, if_true, Lane.Ledger.add_ofEdges, List.nil_append]
    rfl
  rw [push_of_awaited new ledger awaited]
  simp only [opening, List.append_nil]
  exact ⟨trivial, rfl, trivial⟩

end Line

section Company

/-- A layout beside the same one without the placeholders. Of them it has the ids that are not
forgotten yet and the two rows. -/
structure Leads (plain marked : Layout) : Prop where
  ledger : marked.ledger = plain.ledger
  seen : ∃ ghosts : List ObjectId, (∀ ghost ∈ ghosts, ghost.isArtificial = true) ∧ marked.seen = plain.seen ++ ghosts
  window : marked.window = plain.window
  rows : marked.rows = plain.rows + 2
  anomalies : marked.anomalies = plain.anomalies

/-- The row as it is behind the placeholders. The first one has the line that leads from them to
the head. -/
def Row.lowered (head : ObjectId) (row : Row) : Row :=
  { row with
    number := row.number + 2
    edges := if row.number = 0 then Edge.straight 0 head .firstParent :: row.edges else row.edges }

variable {plain marked : Layout} {node : Commit} {ghosts seen : List ObjectId}

theorem mem_append_ghosts {id : ObjectId} (artificial : ∀ ghost ∈ ghosts, ghost.isArtificial = true)
    (real : id.isArtificial = false) : id ∈ seen ++ ghosts ↔ id ∈ seen := by
  rw [List.mem_append, or_iff_left]
  intro ghost
  rw [artificial id ghost] at real
  cases real

/-- The ids of placeholders stay behind all others, as far as they stay. -/
theorem exists_ghosts_left (genuine : node.Genuine) (window : marked.window = plain.window)
    (artificial : ∀ ghost ∈ ghosts, ghost.isArtificial = true) (seen : marked.seen = plain.seen ++ ghosts) :
    ∃ left : List ObjectId, (∀ ghost ∈ left, ghost.isArtificial = true) ∧
      (marked.push node).2.seen = (plain.push node).2.seen ++ left := by
  rw [seen_push, seen_push, seen, window]
  simp only [mem_append_ghosts artificial genuine.id]
  split
  · exact ⟨ghosts, artificial, rfl⟩
  · obtain ⟨left, inside, kept⟩ := exists_remember_append plain.window node.id plain.seen ghosts
    exact ⟨left, fun ghost member => artificial ghost (inside member), kept⟩

theorem Leads.push (leads : plain.Leads marked) (genuine : node.Genuine) :
    (marked.push node).1 = { (plain.push node).1 with number := (plain.push node).1.number + 2 } ∧
      (plain.push node).2.Leads (marked.push node).2 := by
  obtain ⟨ghosts, artificial, seen⟩ := leads.seen
  obtain ⟨left, remaining, kept⟩ := exists_ghosts_left genuine leads.window artificial seen
  obtain ⟨row, ledger, said, here, there⟩ :=
    push_congr leads.ledger (by rw [seen, mem_append_ghosts artificial genuine.id]) fun _ parent listed => by
      rw [kept, mem_append_ghosts remaining (genuine.parents parent listed)]
  rw [leads.rows, ← number_push plain node] at row
  refine ⟨row, ledger, ⟨left, remaining, kept⟩, ?_, ?_, ?_⟩
  · rw [window_push, window_push, leads.window]
  · rw [rows_push, rows_push, leads.rows]
  · rw [here, there, leads.anomalies]

theorem Leads.pushAll (leads : plain.Leads marked) {nodes : List Commit} (genuine : ∀ node ∈ nodes, node.Genuine) :
    (marked.pushAll nodes).1 = (plain.pushAll nodes).1.map (fun row => { row with number := row.number + 2 }) ∧
      (plain.pushAll nodes).2.Leads (marked.pushAll nodes).2 := by
  induction nodes generalizing plain marked with
  | nil => exact ⟨rfl, leads⟩
  | cons node rest ih =>
      obtain ⟨first, others⟩ := List.forall_mem_cons.mp genuine
      obtain ⟨row, leads⟩ := leads.push first
      obtain ⟨rows, leads⟩ := ih leads others
      rw [pushAll_cons, pushAll_cons, row, rows]
      exact ⟨rfl, leads⟩

end Company

section Head

variable {layout : Layout} {window : Option Nat} {head : ObjectId} {first : Commit}

theorem started_push (layout : Layout) (node : Commit) : 0 < (layout.push node).2.rows := by
  rw [rows_push]
  exact Nat.succ_pos _

theorem number_pos_of_mem_pushAll (started : 0 < layout.rows) {nodes : List Commit} :
    ∀ row ∈ (layout.pushAll nodes).1, 0 < row.number := by
  induction nodes generalizing layout with
  | nil => nofun
  | cons node rest ih =>
      rw [pushAll_cons, List.forall_mem_cons, number_push]
      exact ⟨started, ih (started_push _ _)⟩

theorem node_of_number_zero {rest : List Commit} :
    ∀ row ∈ ((start window).pushAll (first :: rest)).1, row.number = 0 → row.node = first := by
  rw [pushAll_cons, List.forall_mem_cons]
  refine ⟨fun _ => node_push _ _, fun row later zero => ?_⟩
  exact absurd zero (Nat.ne_of_gt (number_pos_of_mem_pushAll (started_push _ _) row later))

structure Awaits (window : Option Nat) (head : ObjectId) (layout : Layout) : Prop where
  ledger : layout.ledger = ofEdges (lineTo head)
  seen : ∀ id ∈ layout.seen, id.isArtificial = true
  window : layout.window = window
  rows : layout.rows = 2
  anomalies : layout.anomalies = []

theorem pushAll_placeholders (window : Option Nat) (real : head.isArtificial = false) :
    ((start window).pushAll [.workingTree, .index head]).1 =
        [⟨0, .workingTree, 0, [], [0]⟩, ⟨1, .index head, 0, lineTo .index, [0]⟩] ∧
      Awaits window head ((start window).pushAll [.workingTree, .index head]).2 := by
  let behind := ((start window).push .workingTree).2
  have fresh : ∀ id, id ∉ (start window).seen := fun _ => List.not_mem_nil
  have late : ObjectId.index ∉ behind.seen := notMem_seen_push (fresh _) (by decide)
  have unknown : ∀ id : ObjectId, id.isArtificial = false → id ∉ (behind.push (.index head)).2.seen := by
    intro id real
    have other : id ≠ .workingTree ∧ id ≠ .index := by simpa [ObjectId.isArtificial] using real
    exact notMem_seen_push (notMem_seen_push (fresh id) other.1) other.2
  obtain ⟨tree, line, quiet⟩ := push_of_threaded (fresh Commit.workingTree.id) rfl (by nofun) rfl late
  obtain ⟨index, thread, calm⟩ :=
    push_of_threaded late line (List.forall_mem_singleton.mpr rfl) rfl (unknown head real)
  have one : behind.rows = 1 := rows_push _ _
  rw [pushAll_cons, pushAll_cons, tree, index, one]
  refine ⟨rfl, thread, fun id member => ?_, ?_, ?_, calm.trans quiet⟩
  · by_contra real
    exact unknown id (Bool.eq_false_iff.mpr real) member
  · exact (window_push _ _).trans (window_push _ _)
  · exact (rows_push _ _).trans (congrArg (· + 1) one)

/-- The head is laid out as if nothing had led to it. -/
theorem Awaits.push (awaits : Awaits window first.id layout) (genuine : first.Genuine) :
    (layout.push first).1 = ((start window).push first).1.lowered first.id ∧
      ((start window).push first).2.Leads (layout.push first).2 := by
  have same : layout.window = (start window).window := awaits.window
  have alone : first.id ∉ (start window).seen := List.not_mem_nil
  have new : first.id ∉ layout.seen := (mem_append_ghosts awaits.seen genuine.id).mp.mt alone
  have ghosts : layout.seen = (start window).seen ++ layout.seen := (List.nil_append _).symm
  obtain ⟨left, remaining, kept⟩ := exists_ghosts_left genuine same awaits.seen ghosts
  have opens : openParents (ofEdges []) (remember layout.window first.id layout.seen) first 0 =
      openParents (ofEdges []) (remember (start window).window first.id (start window).seen) first 0 := by
    apply openParents_congr
    intro parent listed
    have seen := kept
    rw [seen_push, seen_push, if_neg alone, if_neg new] at seen
    rw [seen, mem_append_ghosts remaining (genuine.parents parent listed)]
  -- Nothing and the line alone are both closed, and the same edges are opened then.
  have plain := push_of_awaited alone Lane.Ledger.empty_eq (by nofun)
  have marked := push_of_awaited new awaits.ledger (List.forall_mem_singleton.mpr rfl)
  simp only [opens, awaits.rows, awaits.anomalies] at marked
  refine ⟨?_, ?_, ⟨left, remaining, kept⟩, ?_, ?_, ?_⟩
  · rw [plain, marked]
    rfl
  · rw [plain, marked]
  · rw [window_push, window_push, same]
  · rw [rows_push, rows_push, awaits.rows]
    rfl
  · rw [plain, marked]
    rfl

theorem pushAll_behind_placeholders (window : Option Nat) (rest : List Commit)
    (genuine : ∀ node ∈ first :: rest, node.Genuine) :
    let plain := (start window).pushAll (first :: rest)
    let marked := (start window).pushAll ([.workingTree, .index first.id] ++ first :: rest)
    marked.1 = [⟨0, .workingTree, 0, [], [0]⟩, ⟨1, .index first.id, 0, lineTo .index, [0]⟩] ++
        plain.1.map (Row.lowered first.id) ∧
      marked.2.finish.1 = plain.2.finish.1 ∧ marked.2.anomalies = plain.2.anomalies := by
  obtain ⟨here, others⟩ := List.forall_mem_cons.mp genuine
  obtain ⟨placeholders, awaits⟩ := pushAll_placeholders window here.id
  obtain ⟨row, leads⟩ := awaits.push here
  obtain ⟨rows, leads⟩ := leads.pushAll others
  have numbered : ∀ row ∈ (((start window).push first).2.pushAll rest).1,
      { row with number := row.number + 2 } = row.lowered first.id := by
    intro row member
    rw [Row.lowered, if_neg (Nat.ne_of_gt (number_pos_of_mem_pushAll (started_push _ _) row member))]
  intro plain marked
  have split : marked = _ := pushAll_append _ _ _
  rw [split, placeholders]
  refine ⟨?_, ?_, leads.anomalies⟩
  · rw [pushAll_cons, row, rows, List.map_congr_left numbered]
    rfl
  · exact congrArg Lane.Ledger.edges leads.ledger

end Head

end Layout

end CommitLanes
