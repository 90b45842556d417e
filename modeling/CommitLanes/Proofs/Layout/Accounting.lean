import CommitLanes.Proofs.Layout.Exclusivity
import CommitLanes.Proofs.Layout.Frontier
import CommitLanes.Proofs.Layout.Stitching
import Mathlib.Algebra.Ring.Nat
import Mathlib.Data.Finset.Card

/-! Every listing of a parent is accounted for.

A commit lists its parents one behind another, and each listing ends in a line or in an
anomaly. So the anomalies of a run can be read off its commits, and every line that was ever
opened has come in at a commit or is still open.
-/

set_option autoImplicit false

namespace CommitLanes.Layout

section Earlier

variable {α : Type}

def withEarlier (items : List α) : List (List α × α) :=
  items.mapIdx fun place item => (items.take place, item)

theorem withEarlier_concat (items : List α) (last : α) :
    withEarlier (items ++ [last]) = withEarlier items ++ [(items, last)] := by
  have front : (items.mapIdx fun place item => ((items ++ [last]).take place, item)) = withEarlier items := by
    apply List.mapIdx_eq_mapIdx_iff.mpr
    intro place inside
    rw [List.take_append_of_le_length (Nat.le_of_lt inside)]
  rw [withEarlier, List.mapIdx_append, front]
  simp

theorem length_withEarlier (items : List α) : (withEarlier items).length = items.length :=
  List.length_mapIdx

theorem map_snd_withEarlier (items : List α) : (withEarlier items).map (·.2) = items := by
  apply List.ext_getElem?
  intro place
  rw [List.getElem?_map, withEarlier, List.getElem?_mapIdx, Option.map_map]
  exact Option.map_id'

end Earlier

section Listings

def objection? (known : List ObjectId) (commit : ObjectId) (listing : List ObjectId × ObjectId) :
    Option Anomaly :=
  if listing.2 ∈ known then some (.parentAlreadyLaidOut commit listing.2)
  else if listing.2 ∈ listing.1 then some (.duplicateParent commit listing.2)
  else none

def objections (known : List ObjectId) (commit : ObjectId) (parents : List ObjectId) : List Anomaly :=
  (withEarlier parents).filterMap (objection? known commit)

def unopposed (known : List ObjectId) (commit : ObjectId) (parents : List ObjectId) : List ObjectId :=
  ((withEarlier parents).filter fun listing => (objection? known commit listing).isNone).map (·.2)

variable {known others : List ObjectId} {commit : ObjectId}

theorem unopposed_eq (known : List ObjectId) (commit : ObjectId) (parents : List ObjectId) :
    unopposed known commit parents = firstListed known parents := by
  induction parents using List.reverseRecOn with
  | nil => rfl
  | append_singleton parents parent ih =>
      rw [firstListed_append, ← ih, unopposed, withEarlier_concat, List.filter_append, List.map_append]
      by_cases early : parent ∈ known
      · simp [objection?, early, unopposed]
      · by_cases again : parent ∈ parents
        · simp [objection?, early, again, unopposed]
        · simp [objection?, early, again, unopposed]

theorem objections_concat (known : List ObjectId) (commit : ObjectId) (parents : List ObjectId)
    (parent : ObjectId) :
    objections known commit (parents ++ [parent]) =
      objections known commit parents ++ (objection? known commit (parents, parent)).toList := by
  rw [objections, withEarlier_concat, List.filterMap_append, objections]
  cases said : objection? known commit (parents, parent) <;> simp [said]

/-- No listing goes without a line or an anomaly, and none gets both. -/
theorem length_unopposed_add (known : List ObjectId) (commit : ObjectId) (parents : List ObjectId) :
    (unopposed known commit parents).length + (objections known commit parents).length = parents.length := by
  rw [← length_withEarlier parents, unopposed, objections, List.length_map]
  induction withEarlier parents with
  | nil => rfl
  | cons listing rest ih =>
      rw [List.length_cons, ← ih]
      cases said : objection? known commit listing with
      | none => simp [said]; omega
      | some anomaly => simp [said]; omega

theorem objections_congr (same : ∀ id, id ∈ known ↔ id ∈ others) (parents : List ObjectId) :
    objections known commit parents = objections others commit parents := by
  rw [objections, objections]
  congr 1
  funext listing
  simp only [objection?, same]

end Listings

/-- What a commit reports behind these others. A repeat is reported itself, and its parents are
not looked at. -/
def reported (before : List Commit) (node : Commit) : List Anomaly :=
  if node.id ∈ before.map (·.id) then [.duplicateCommit node.id]
  else objections (node.id :: before.map (·.id)) node.id node.parents

def granted (before : List Commit) (node : Commit) : List ObjectId :=
  if node.id ∈ before.map (·.id) then []
  else unopposed (node.id :: before.map (·.id)) node.id node.parents

/-- How much is wrong with a commit behind these others: all of its listings but one for each
parent that has not come. -/
def irregularities (before : List Commit) (node : Commit) : Nat :=
  if node.id ∈ before.map (·.id) then 1
  else node.parents.length - (node.parents.toFinset \ (node.id :: before.map (·.id)).toFinset).card

theorem length_firstListed (known listed : List ObjectId) :
    (firstListed known listed).length = (listed.toFinset \ known.toFinset).card := by
  rw [← List.toFinset_card_of_nodup (nodup_firstListed known listed)]
  congr 1
  ext parent
  simp [mem_firstListed]

theorem length_reported (before : List Commit) (node : Commit) :
    (reported before node).length = irregularities before node := by
  rw [reported, irregularities]
  split
  · rfl
  · have all := length_unopposed_add (node.id :: before.map (·.id)) node.id node.parents
    rw [unopposed_eq, length_firstListed] at all
    omega

section Push

variable {nodes : List Commit} {layout : Layout}

theorem anomalies_foldl_parent (ledger : Lane.Ledger) (seen : List ObjectId) (commit : ObjectId) (lane : Lane)
    (parents : List ObjectId) :
    let opening := parents.foldl (Opening.parent seen commit lane) ⟨ledger, [], [], []⟩
    opening.registered = firstListed seen parents ∧ opening.anomalies = objections seen commit parents := by
  -- From the back: a listing is judged by those before it, and these have been dealt with.
  induction parents using List.reverseRecOn with
  | nil => exact ⟨rfl, rfl⟩
  | append_singleton parents parent ih =>
      simp only [List.foldl_append, List.foldl_cons, List.foldl_nil]
      generalize parents.foldl (Opening.parent seen commit lane) ⟨ledger, [], [], []⟩ = opening at ih ⊢
      obtain ⟨registered, anomalies⟩ := ih
      rw [firstListed_append, objections_concat, Opening.parent]
      by_cases early : parent ∈ seen
      · simp [objection?, early, registered, anomalies]
      · by_cases again : parent ∈ parents
        · simp [objection?, early, again, registered, anomalies, mem_firstListed]
        · simp [objection?, early, again, registered, anomalies, mem_firstListed]

theorem anomalies_push (layout : Layout) (node : Commit) :
    (layout.push node).2.anomalies = layout.anomalies ++
      if node.id ∈ layout.seen then [.duplicateCommit node.id]
      else objections (layout.push node).2.seen node.id node.parents := by
  rw [seen_push, push]
  split
  · rfl
  · simp only [pushNew, openParents, (anomalies_foldl_parent ..).2]

theorem Tracks.anomalies_push (tracks : Tracks nodes layout) (node : Commit) :
    (layout.push node).2.anomalies = layout.anomalies ++ reported nodes node := by
  rw [Layout.anomalies_push, reported, seen_push, tracks.window]
  congr 1
  by_cases repeated : node.id ∈ layout.seen
  · simp [repeated, (tracks.seen node.id).mp repeated]
  · have new : node.id ∉ nodes.map (·.id) := fun before => repeated ((tracks.seen node.id).mpr before)
    -- What is remembered may stand in another order than the commits, but it is the same.
    have known : ∀ id, id ∈ node.id :: layout.seen ↔ id ∈ node.id :: nodes.map (·.id) := by
      intro id
      rw [List.mem_cons, List.mem_cons, tracks.seen]
    rw [if_neg repeated, if_neg repeated, if_neg new]
    exact objections_congr known node.parents

theorem Tracks.opens_eq_granted (tracks : Tracks nodes layout) (node : Commit) :
    layout.opens node = granted nodes node := by
  rw [tracks.opens_eq, granted, unopposed_eq]

end Push

section Run

variable {layout : Layout}

theorem pushAll_concat (layout : Layout) (nodes : List Commit) (node : Commit) :
    layout.pushAll (nodes ++ [node]) =
      ((layout.pushAll nodes).1 ++ [((layout.pushAll nodes).2.push node).1],
        ((layout.pushAll nodes).2.push node).2) :=
  pushAll_append layout nodes [node]

theorem anomalies_pushAll (nodes : List Commit) :
    ((start none).pushAll nodes).2.anomalies =
      (withEarlier nodes).flatMap fun here => reported here.1 here.2 := by
  induction nodes using List.reverseRecOn with
  | nil => rfl
  | append_singleton nodes node ih =>
      rw [pushAll_concat, (tracks_pushAll nodes).anomalies_push, ih, withEarlier_concat]
      simp

/-- The lines that a commit opens come to those that were open; what has come in goes. -/
theorem Laid.lines_perm {node : Commit} {row : Row} {next : Layout} (laid : Laid layout node row next) :
    (layout.ledger.edges.map Edge.line ++ openedLines row.parentLanes (layout.opens node)).Perm
      (row.incoming.map Edge.line ++ next.ledger.edges.map Edge.line) := by
  have parted : (row.incoming ++ row.passing).Perm row.edges := by
    simpa [Row.incoming, Row.passing] using
      List.filter_append_perm (fun edge => decide (edge.target = row.node.id)) row.edges
  rw [laid.map_line_next, ← laid.map_line, ← List.append_assoc, ← List.map_append]
  exact (parted.symm.map Edge.line).append_right _

theorem length_openedLines {lanes : List Lane} {parents : List ObjectId} (paired : lanes.length = parents.length) :
    (openedLines lanes parents).length = lanes.length := by
  rw [openedLines, List.length_mapIdx, List.length_zip, paired, Nat.min_self]

def linesOpened (nodes : List Commit) (rows : List Row) : List (Lane × ObjectId × Edge.Kind) :=
  ((withEarlier nodes).zip rows).flatMap fun here => openedLines here.2.parentLanes (granted here.1.1 here.1.2)

theorem linesOpened_concat {nodes : List Commit} {rows : List Row} (same : nodes.length = rows.length)
    (node : Commit) (row : Row) :
    linesOpened (nodes ++ [node]) (rows ++ [row]) =
      linesOpened nodes rows ++ openedLines row.parentLanes (granted nodes node) := by
  rw [linesOpened, withEarlier_concat, List.zip_append ((length_withEarlier nodes).trans same), List.flatMap_append]
  simp [linesOpened]

theorem linesOpened_perm (nodes : List Commit) :
    let rows := ((start none).pushAll nodes).1
    (linesOpened nodes rows).length = (rows.map fun row => row.parentLanes.length).sum ∧
      (linesOpened nodes rows).Perm
        ((rows.flatMap fun row => row.incoming.map Edge.line) ++
          ((start none).pushAll nodes).2.ledger.edges.map Edge.line) := by
  induction nodes using List.reverseRecOn with
  | nil => exact ⟨rfl, .nil⟩
  | append_singleton nodes node ih =>
      have tracks := tracks_pushAll nodes
      have laid := laid_push tracks.settled node
      have same : nodes.length = ((start none).pushAll nodes).1.length := (length_pushAll _ nodes).symm
      obtain ⟨counted, perm⟩ := ih
      -- The lines open before the last commit are those that come in at it or pass, and it adds its own.
      rw [pushAll_concat]
      simp only [linesOpened_concat same]
      have balance := laid.lines_perm
      rw [tracks.opens_eq_granted] at balance
      have paired := laid.paired
      rw [tracks.opens_eq_granted] at paired
      constructor
      · rw [List.length_append, length_openedLines paired, counted]
        simp
      · rw [List.flatMap_append, List.append_assoc]
        refine (perm.append_right _).trans ?_
        rw [List.append_assoc]
        simpa using balance.append_left _

end Run

/-- What becomes of a commit and of its listings behind these others: each listing is granted a
lane or reported, and nothing else happens. -/
structure Accounted (before : List Commit) (node : Commit) (layout : Layout) (row : Row) (next : Layout) : Prop where
  anomalies : next.anomalies = layout.anomalies ++ reported before node
  edges : next.ledger.edges = row.passing ++ ownEdges row.parentLanes (granted before node)
  lanes : row.parentLanes.length = (granted before node).length
  accepted : node.id ∉ before.map (·.id) →
    row.parentLanes.length + (reported before node).length = node.parents.length
  repeated : node.id ∈ before.map (·.id) →
    next.anomalies = layout.anomalies ++ [.duplicateCommit node.id] ∧ row.parentLanes = [] ∧
      row.incoming = [] ∧ next.ledger = layout.ledger

theorem Tracks.accounted {nodes : List Commit} {layout : Layout} (tracks : Tracks nodes layout) (node : Commit) :
    Accounted nodes node layout (layout.push node).1 (layout.push node).2 := by
  have laid := laid_push tracks.settled node
  have lanes : (layout.push node).1.parentLanes.length = (granted nodes node).length := by
    rw [laid.paired, tracks.opens_eq_granted]
  refine ⟨tracks.anomalies_push node, ?_, lanes, fun new => ?_, fun before => ?_⟩
  · rw [laid.next_edges, tracks.opens_eq_granted]
  · rw [lanes, granted, reported, if_neg new, if_neg new]
    exact length_unopposed_add _ _ _
  · have repeated : node.id ∈ layout.seen := (tracks.seen node.id).mpr before
    refine ⟨?_, laid.parentLanes_of_repeat repeated, tracks.settled.incoming_of_repeat laid repeated, ?_⟩
    · rw [tracks.anomalies_push, reported, if_pos before]
    · rw [Layout.push, if_pos repeated]
      rfl

/-- The anomalies of a run are as many as its commits have irregularities. At every commit each
listing of a parent is a line or an anomaly, and over the run every line that was opened has
come in at a commit or is still open. -/
theorem every_listing_accounted (nodes : List Commit) :
    let rows := ((start none).pushAll nodes).1
    let layout := ((start none).pushAll nodes).2
    layout.anomalies.length = ((withEarlier nodes).map fun here => irregularities here.1 here.2).sum ∧
      (∀ before node,
        let above := ((start none).pushAll before).2
        Accounted before node above (above.push node).1 (above.push node).2) ∧
      (linesOpened nodes rows).Perm
        ((rows.flatMap fun row => row.incoming.map Edge.line) ++ layout.ledger.edges.map Edge.line) ∧
      (rows.map fun row => row.parentLanes.length).sum =
        (rows.map fun row => row.incoming.length).sum + layout.ledger.edges.length := by
  intro rows layout
  obtain ⟨counted, perm⟩ := linesOpened_perm nodes
  refine ⟨?_, fun before node => (tracks_pushAll before).accounted node, perm, ?_⟩
  · rw [anomalies_pushAll, List.length_flatMap]
    simp only [length_reported]
  · rw [← counted, perm.length_eq, List.length_append, List.length_flatMap]
    simp only [List.length_map]
    rfl

end CommitLanes.Layout
