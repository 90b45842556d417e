import CommitLanes.Proofs.Layout.Accounting
import CommitLanes.Proofs.Layout.Packing

/-! What a window forgets.

A layout asks its memory whether a commit is a repeat and whether a parent has come too early.
Two layouts that answer alike lay out alike, so that a window makes no difference where nothing
it forgets is asked for again.
-/

set_option autoImplicit false

namespace CommitLanes.Layout

structure Alike (full bounded : Layout) : Prop where
  ledger : bounded.ledger = full.ledger
  rows : bounded.rows = full.rows
  anomalies : bounded.anomalies = full.anomalies
  maxWidth : bounded.maxWidth = full.maxWidth

section Step

variable {full bounded : Layout} {node : Commit}

theorem openParents_congr {seen others : List ObjectId} (same : ∀ parent ∈ node.parents, parent ∈ seen ↔ parent ∈ others)
    (ledger : Lane.Ledger) (lane : Lane) : openParents ledger seen node lane = openParents ledger others node lane := by
  apply List.foldl_ext
  intro opening parent listed
  simp only [Opening.parent, same parent listed]

theorem number_push (layout : Layout) (node : Commit) : (layout.push node).1.number = layout.rows := by
  unfold push
  split <;> rfl

theorem rows_push (layout : Layout) (node : Commit) : (layout.push node).2.rows = layout.rows + 1 := by
  unfold push
  split <;> rfl

/-- Of a layout only the open edges and what it answers about the ids of a commit count when the commit
is laid out. The rest is carried on. -/
theorem push_congr (ledger : bounded.ledger = full.ledger) (known : node.id ∈ full.seen ↔ node.id ∈ bounded.seen)
    (early : node.id ∉ full.seen → ∀ parent ∈ node.parents,
      parent ∈ (full.push node).2.seen ↔ parent ∈ (bounded.push node).2.seen) :
    (bounded.push node).1 = { (full.push node).1 with number := bounded.rows } ∧
      (bounded.push node).2.ledger = (full.push node).2.ledger ∧
      ∃ said, (full.push node).2.anomalies = full.anomalies ++ said ∧
        (bounded.push node).2.anomalies = bounded.anomalies ++ said := by
  rw [seen_push, seen_push] at early
  by_cases repeated : node.id ∈ full.seen
  · rw [Layout.push, Layout.push, if_pos repeated, if_pos (known.mp repeated), pushDuplicate, pushDuplicate, ledger]
    exact ⟨rfl, rfl, _, rfl, rfl⟩
  · have new : node.id ∉ bounded.seen := fun again => repeated (known.mpr again)
    have early := early repeated
    rw [if_neg repeated, if_neg new] at early
    rw [Layout.push, Layout.push, if_neg repeated, if_neg new, pushNew, pushNew]
    simp only [ledger, openParents_congr early]
    exact ⟨trivial, trivial, _, rfl, rfl⟩

/-- Layouts that differ in what they remember answer alike where they agree about the ids of the commit. -/
theorem Alike.push (alike : full.Alike bounded) (known : node.id ∈ full.seen ↔ node.id ∈ bounded.seen)
    (early : node.id ∉ full.seen → ∀ parent ∈ node.parents,
      parent ∈ (full.push node).2.seen ↔ parent ∈ (bounded.push node).2.seen) :
    (bounded.push node).1 = (full.push node).1 ∧ (full.push node).2.Alike (bounded.push node).2 := by
  obtain ⟨row, ledger, said, here, there⟩ := push_congr alike.ledger known early
  rw [alike.rows, ← number_push full node] at row
  refine ⟨row, ledger, ?_, ?_, ?_⟩
  · rw [rows_push, rows_push, alike.rows]
  · rw [here, there, alike.anomalies]
  · rw [maxWidth_push, maxWidth_push, row, alike.maxWidth]

end Step

section Consistent

variable {full bounded : Layout} {nodes : List Commit} {node : Commit}

theorem anomalies_prefix_pushAll (layout : Layout) (nodes : List Commit) :
    layout.anomalies <+: (layout.pushAll nodes).2.anomalies := by
  induction nodes generalizing layout with
  | nil => exact List.prefix_refl _
  | cons node rest ih =>
      have first : layout.anomalies <+: (layout.push node).2.anomalies := by
        rw [anomalies_push]
        exact List.prefix_append _ _
      exact first.trans (ih _)

theorem notMem_of_objections {known parents : List ObjectId} {commit : ObjectId}
    (quiet : objections known commit parents = []) : ∀ parent ∈ parents, parent ∉ known := by
  intro parent listed early
  rw [← map_snd_withEarlier parents] at listed
  obtain ⟨listing, member, rfl⟩ := List.mem_map.mp listed
  have said := List.filterMap_eq_nil_iff.mp quiet listing member
  rw [objection?, if_pos early] at said
  cases said

theorem quiet_push {layout : Layout} (quiet : (layout.push node).2.anomalies = []) :
    node.id ∉ layout.seen ∧ ∀ parent ∈ node.parents, parent ∉ (layout.push node).2.seen := by
  rw [anomalies_push, List.append_eq_nil_iff] at quiet
  obtain ⟨-, quiet⟩ := quiet
  split at quiet
  · cases quiet
  next new => exact ⟨new, notMem_of_objections quiet⟩

theorem seen_push_subset (window : full.window = none) (inside : bounded.seen ⊆ full.seen) (new : node.id ∉ full.seen) :
    (bounded.push node).2.seen ⊆ (full.push node).2.seen := by
  have other : node.id ∉ bounded.seen := fun again => new (inside again)
  rw [seen_push, seen_push, if_neg new, if_neg other, window]
  intro id member
  rcases of_mem_remember member with rfl | before
  · exact List.mem_cons_self ..
  · exact List.mem_cons_of_mem _ (inside before)

theorem Alike.pushAll_of_consistent (alike : full.Alike bounded) (window : full.window = none)
    (inside : bounded.seen ⊆ full.seen) (consistent : (full.pushAll nodes).2.anomalies = []) :
    (bounded.pushAll nodes).1 = (full.pushAll nodes).1 ∧ (full.pushAll nodes).2.Alike (bounded.pushAll nodes).2 := by
  -- A repeat or an early parent would be reported with no window, so whatever is asked for is new
  -- there, and all the more where less is remembered.
  induction nodes generalizing full bounded with
  | nil => exact ⟨rfl, alike⟩
  | cons node rest ih =>
      have quiet : (full.push node).2.anomalies = [] :=
        List.prefix_nil.mp (consistent ▸ anomalies_prefix_pushAll (full.push node).2 rest)
      obtain ⟨new, late⟩ := quiet_push quiet
      have smaller := seen_push_subset window inside new
      obtain ⟨row, alike⟩ := alike.push (iff_of_false new fun again => new (inside again))
        fun _ parent listed => iff_of_false (late parent listed) fun early => late parent listed (smaller early)
      obtain ⟨rows, alike⟩ := ih alike ((window_push full node).trans window) smaller consistent
      rw [pushAll_cons, pushAll_cons, row, rows]
      exact ⟨rfl, alike⟩

end Consistent

section Roomy

variable {full bounded : Layout} {nodes : List Commit} {node : Commit} {size : Nat} {ids : Finset ObjectId}

structure Remembers (layout : Layout) (ids : Finset ObjectId) : Prop where
  distinct : layout.seen.Nodup
  inside : ∀ id ∈ layout.seen, id ∈ ids

theorem Remembers.length_lt (remembers : full.Remembers ids) (new : node.id ∉ full.seen) (member : node.id ∈ ids) :
    full.seen.length < ids.card := by
  have distinct : (node.id :: full.seen).Nodup := List.nodup_cons.mpr ⟨new, remembers.distinct⟩
  have inside : (node.id :: full.seen).toFinset ⊆ ids := fun id known =>
    (List.mem_cons.mp (List.mem_toFinset.mp known)).elim (fun same => same ▸ member) (remembers.inside id)
  have bound := Finset.card_le_card inside
  rwa [List.toFinset_card_of_nodup distinct] at bound

theorem Remembers.push (remembers : full.Remembers ids) (window : full.window = none) (member : node.id ∈ ids) :
    (full.push node).2.Remembers ids := by
  obtain ⟨distinct, inside⟩ := remembers
  constructor
  all_goals rw [seen_push, window]
  all_goals split
  · exact distinct
  next new => exact List.nodup_cons.mpr ⟨new, distinct⟩
  · exact inside
  · exact List.forall_mem_cons.mpr ⟨member, inside⟩

theorem seen_push_eq (remembers : full.Remembers ids) (window : full.window = none)
    (limited : bounded.window = some size) (room : ids.card ≤ size) (same : bounded.seen = full.seen)
    (member : node.id ∈ ids) : (bounded.push node).2.seen = (full.push node).2.seen := by
  rw [seen_push, seen_push, same, limited, window]
  split
  · rfl
  next new =>
    have fits : (node.id :: full.seen).length ≤ size := Nat.le_trans (remembers.length_lt new member) room
    exact List.take_of_length_le fits

theorem Alike.pushAll_of_roomy (alike : full.Alike bounded) (window : full.window = none)
    (limited : bounded.window = some size) (room : ids.card ≤ size) (remembers : full.Remembers ids)
    (same : bounded.seen = full.seen) (members : ∀ node ∈ nodes, node.id ∈ ids) :
    (bounded.pushAll nodes).1 = (full.pushAll nodes).1 ∧ (full.pushAll nodes).2.Alike (bounded.pushAll nodes).2 := by
  -- Nothing is ever forgotten, so both remember the same all along.
  induction nodes generalizing full bounded with
  | nil => exact ⟨rfl, alike⟩
  | cons node rest ih =>
      obtain ⟨member, members⟩ := List.forall_mem_cons.mp members
      have later := seen_push_eq remembers window limited room same member
      obtain ⟨row, alike⟩ := alike.push (by rw [same]) fun _ parent _ => by rw [later]
      obtain ⟨rows, alike⟩ := ih alike ((window_push full node).trans window)
        ((window_push bounded node).trans limited) (remembers.push window member) later members
      rw [pushAll_cons, pushAll_cons, row, rows]
      exact ⟨rfl, alike⟩

end Roomy

/-- A window changes nothing where nothing is wrong with the commits, however small it is, and
nothing at all where it has room for all their ids. -/
theorem window_is_immaterial (nodes : List Commit) (size : Nat)
    (harmless : ((start none).pushAll nodes).2.anomalies = [] ∨ (nodes.map (·.id)).toFinset.card ≤ size) :
    let full := (start none).pushAll nodes
    let bounded := (start (some size)).pushAll nodes
    bounded.1 = full.1 ∧ bounded.2.finish.1 = full.2.finish.1 ∧ bounded.2.maxWidth = full.2.maxWidth ∧
      bounded.2.anomalies = full.2.anomalies := by
  intro full bounded
  have fresh : (start none).Alike (start (some size)) := ⟨rfl, rfl, rfl, rfl⟩
  have agree : bounded.1 = full.1 ∧ full.2.Alike bounded.2 := by
    rcases harmless with consistent | room
    · exact fresh.pushAll_of_consistent rfl (List.Subset.refl _) consistent
    · refine fresh.pushAll_of_roomy rfl rfl room ⟨List.nodup_nil, fun id none => by cases none⟩ rfl fun node member => ?_
      exact List.mem_toFinset.mpr (List.mem_map_of_mem member)
  obtain ⟨rows, alike⟩ := agree
  refine ⟨rows, ?_, alike.maxWidth, alike.anomalies⟩
  rw [finish, finish, alike.ledger]

def sampleNode (id : UInt8) (parents : List UInt8) : Commit :=
  let named (b : UInt8) : ObjectId := ⟨b :: List.replicate 19 0, .inl rfl⟩
  { Commit.placeholder (named id) (named id) [] with parents := parents.map named }

/-- Two lines that part and meet again. -/
def diamond : List Commit :=
  [sampleNode 4 [3, 2], sampleNode 3 [1], sampleNode 2 [1], sampleNode 1 []]

/-- Two commits that are each other's parents, listed twice, and one of them once more. -/
def tangle : List Commit :=
  [sampleNode 2 [1, 1], sampleNode 1 [2, 2], sampleNode 2 [1]]

/-- The one is laid out alike with no memory at all, the other with room for two ids. -/
theorem window_is_immaterial_diamond_tangle :
    ((start none).pushAll diamond).2.anomalies = [] ∧ (tangle.map (·.id)).toFinset.card ≤ 2 ∧
      ((start (some 0)).pushAll diamond).1 = ((start none).pushAll diamond).1 ∧
      ((start (some 2)).pushAll tangle).2.anomalies.length = 4 := by
  have consistent : ((start none).pushAll diamond).2.anomalies = [] := by decide +kernel
  have room : (tangle.map (·.id)).toFinset.card ≤ 2 := by decide
  have four : ((start none).pushAll tangle).2.anomalies.length = 4 := by decide +kernel
  obtain ⟨rows, -⟩ := window_is_immaterial diamond 0 (.inl consistent)
  obtain ⟨-, -, -, anomalies⟩ := window_is_immaterial tangle 2 (.inr room)
  exact ⟨consistent, room, rows, anomalies ▸ four⟩

end CommitLanes.Layout
