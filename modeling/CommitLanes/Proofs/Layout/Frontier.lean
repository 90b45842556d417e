import CommitLanes.Proofs.Layout.Row
import CommitLanes.Proofs.Layout.Settled
import Mathlib.Data.List.Induction

/-! The open edges are the frontier of the history.

When every id is remembered, the edges that are open after any commits whatever, in any order
and with repeats, can be read off the commits: they lead to the parents that have not come.
-/

set_option autoImplicit false

namespace CommitLanes.Layout

section Listings

theorem nodup_firstListed (seen listed : List ObjectId) : (firstListed seen listed).Nodup := by
  induction listed using List.reverseRecOn with
  | nil => simp [firstListed]
  | append_singleton listed parent ih =>
      rw [firstListed_append]
      split
      · exact ih
      next new =>
        rw [List.nodup_append]
        refine ⟨ih, by simp, ?_⟩
        rintro earlier member _ (_ | ⟨_, ⟨⟩⟩) rfl
        exact new (.inr (mem_firstListed.mp member).1)

theorem count_firstListed (seen listed : List ObjectId) (parent : ObjectId) :
    (firstListed seen listed).count parent = if parent ∈ listed ∧ parent ∉ seen then 1 else 0 := by
  rw [(nodup_firstListed seen listed).count]
  exact if_congr mem_firstListed rfl rfl

theorem firstListed_congr {seen others : List ObjectId} (same : ∀ id, id ∈ seen ↔ id ∈ others)
    (listed : List ObjectId) : firstListed seen listed = firstListed others listed :=
  List.filter_congr fun parent _ => by simp [same]

theorem firstListed_seen_append (seen listed : List ObjectId) (id : ObjectId) :
    firstListed (seen ++ [id]) listed = (firstListed seen listed).filter fun parent => parent ≠ id := by
  rw [firstListed, firstListed, List.filter_filter]
  exact List.filter_congr fun parent _ => by simp [and_comm]

end Listings

/-- The commits that come for the first time, where those with these ids have come already. -/
def newcomers (known : List ObjectId) : List Commit → List Commit
  | [] => []
  | node :: rest =>
      if node.id ∈ known then newcomers known rest else node :: newcomers (node.id :: known) rest

theorem newcomers_append (known : List ObjectId) (nodes : List Commit) (node : Commit) :
    newcomers known (nodes ++ [node]) =
      newcomers known nodes ++
        if node.id ∈ known ∨ node.id ∈ nodes.map (·.id) then [] else [node] := by
  induction nodes generalizing known with
  | nil => by_cases here : node.id ∈ known <;> simp [newcomers, here]
  | cons first rest ih =>
      by_cases here : first.id ∈ known
      · -- The first commit is a repeat itself and adds no id.
        have same : node.id ∈ known ∨ node.id ∈ (first :: rest).map (·.id) ↔
            node.id ∈ known ∨ node.id ∈ rest.map (·.id) := by
          rw [List.map_cons, List.mem_cons]
          constructor
          · rintro (before | equal | later)
            · exact .inl before
            · exact .inl (equal ▸ here)
            · exact .inr later
          · exact Or.imp_right .inr
        simp only [List.cons_append, newcomers, here, if_true, ih, same]
      · have same : node.id ∈ known ∨ node.id ∈ (first :: rest).map (·.id) ↔
            node.id ∈ first.id :: known ∨ node.id ∈ rest.map (·.id) := by
          simp only [List.map_cons, List.mem_cons]
          tauto
        simp only [List.cons_append, newcomers, here, if_false, ih, same]

/-- The parents that have not come, commit by commit, each at its first listing. -/
def frontier (nodes : List Commit) : List ObjectId :=
  (newcomers [] nodes).flatMap fun node => firstListed (nodes.map (·.id)) node.parents

theorem frontier_append (nodes : List Commit) (node : Commit) :
    frontier (nodes ++ [node]) =
      ((frontier nodes).filter fun parent => parent ≠ node.id) ++
        if node.id ∈ nodes.map (·.id) then [] else firstListed (node.id :: nodes.map (·.id)) node.parents := by
  have old : (newcomers [] nodes).flatMap (fun earlier => firstListed ((nodes ++ [node]).map (·.id)) earlier.parents) =
      (frontier nodes).filter fun parent => parent ≠ node.id := by
    rw [frontier, List.filter_flatMap]
    congr 1
    funext earlier
    rw [List.map_append, List.map_singleton, firstListed_seen_append]
  have ids : ∀ id, id ∈ (nodes ++ [node]).map (·.id) ↔ id ∈ node.id :: nodes.map (·.id) := by
    intro id
    simp [or_comm]
  -- The new commit takes away what led to it, also where it is a repeat.
  rw [frontier, newcomers_append, List.flatMap_append, old]
  congr 1
  by_cases repeated : node.id ∈ nodes.map (·.id)
  · simp [repeated]
  · simp only [List.not_mem_nil, repeated, or_self, if_false, List.flatMap_cons, List.flatMap_nil, List.append_nil]
    exact firstListed_congr ids node.parents

theorem count_frontier (nodes : List Commit) {id : ObjectId} (new : id ∉ nodes.map (·.id)) :
    (frontier nodes).count id = (newcomers [] nodes).countP fun node => id ∈ node.parents := by
  -- None of these commits leads to the id twice, so edges can be counted by commits.
  rw [frontier]
  induction newcomers [] nodes with
  | nil => rfl
  | cons node rest ih =>
      rw [List.flatMap_cons, List.count_append, ih, count_firstListed, List.countP_cons]
      by_cases listed : id ∈ node.parents
      · simp [listed, new, Nat.add_comm]
      · simp [listed]

structure Tracks (nodes : List Commit) (layout : Layout) : Prop where
  settled : layout.Settled
  window : layout.window = none
  seen : ∀ id, id ∈ layout.seen ↔ id ∈ nodes.map (·.id)
  targets : layout.ledger.edges.map (·.target) = frontier nodes

section Run

variable {nodes : List Commit} {layout : Layout}

theorem tracks_start : Tracks [] (start none) :=
  ⟨settled_start none, rfl, fun _ => Iff.rfl, rfl⟩

theorem window_push (layout : Layout) (node : Commit) : (layout.push node).2.window = layout.window := by
  unfold push
  split <;> rfl

theorem map_target_filter (edges : List Edge) (id : ObjectId) :
    (edges.filter fun edge => edge.target ≠ id).map (·.target) =
      (edges.map (·.target)).filter fun target => target ≠ id := by
  rw [List.filter_map]
  rfl

theorem Tracks.opens_eq (tracks : Tracks nodes layout) (node : Commit) :
    layout.opens node =
      if node.id ∈ nodes.map (·.id) then [] else firstListed (node.id :: nodes.map (·.id)) node.parents := by
  have known : ∀ id, id ∈ node.id :: layout.seen ↔ id ∈ node.id :: nodes.map (·.id) := by
    intro id
    rw [List.mem_cons, List.mem_cons, tracks.seen]
  rw [opens, tracks.window]
  exact if_congr (tracks.seen node.id) rfl (firstListed_congr known node.parents)

theorem Tracks.push (tracks : Tracks nodes layout) (node : Commit) :
    Tracks (nodes ++ [node]) (layout.push node).2 := by
  have laid := laid_push tracks.settled node
  refine ⟨tracks.settled.push node, (window_push layout node).trans tracks.window, ?_, ?_⟩
  · intro other
    have known : other ∈ (nodes ++ [node]).map (·.id) ↔ other ∈ layout.seen ∨ other = node.id := by
      simp [tracks.seen]
    rw [seen_push, tracks.window, known]
    split
    next repeated => exact ⟨.inl, fun either => either.elim id fun same => same ▸ repeated⟩
    next => exact List.mem_cons.trans or_comm
  · rw [laid.next_edges, List.map_append, map_target_ownEdges laid.paired, laid.passing_eq, map_target_filter,
      tracks.targets, tracks.opens_eq, frontier_append]

theorem Tracks.pushAll (tracks : Tracks nodes layout) (rest : List Commit) :
    Tracks (nodes ++ rest) (layout.pushAll rest).2 := by
  induction rest generalizing nodes layout with
  | nil =>
      rw [List.append_nil]
      exact tracks
  | cons node rest ih =>
      have later := ih (tracks.push node)
      rwa [List.append_assoc] at later

theorem tracks_pushAll (nodes : List Commit) : Tracks nodes ((start none).pushAll nodes).2 :=
  tracks_start.pushAll nodes

/-- As many lines end at a new commit as newcomers before it have listed it. -/
theorem Tracks.length_incoming (tracks : Tracks nodes layout) {node : Commit} (new : node.id ∉ nodes.map (·.id)) :
    (layout.push node).1.incoming.length = (newcomers [] nodes).countP fun earlier => node.id ∈ earlier.parents := by
  have laid := laid_push tracks.settled node
  have targets : (layout.push node).1.edges.map (·.target) = layout.ledger.edges.map (·.target) := by
    rw [laid.edges, List.map_map]
    exact List.map_congr_left fun edge _ => Edge.target_arriving _ _ edge
  rw [← count_frontier nodes new, ← tracks.targets, ← targets, List.count_eq_countP, List.countP_map,
    List.countP_eq_length_filter, Row.incoming, laid.here]
  rfl

theorem getElem?_pushAll (layout : Layout) (nodes : List Commit) (place : Nat) :
    (layout.pushAll nodes).1[place]? =
      nodes[place]?.map fun node => ((layout.pushAll (nodes.take place)).2.push node).1 := by
  induction nodes generalizing layout place with
  | nil => rfl
  | cons node rest ih =>
      cases place with
      | zero => rfl
      | succ place => exact ih (layout.push node).2 place

/-- What is open after any commits, what ends at each new one and what the layout returns at the
end, read off the commits alone. -/
theorem open_edges_eq_frontier (nodes : List Commit) :
    let rows := ((start none).pushAll nodes).1
    let layout := ((start none).pushAll nodes).2
    layout.ledger.edges.map (·.target) = frontier nodes ∧
      (∀ place node, nodes[place]? = some node → node.id ∉ (nodes.take place).map (·.id) →
        ∃ row, rows[place]? = some row ∧ row.incoming.length =
          (newcomers [] (nodes.take place)).countP fun earlier => node.id ∈ earlier.parents) ∧
      layout.finish.1 = layout.ledger.edges ∧ layout.finish.2.ledger = Lane.Ledger.empty := by
  intro rows layout
  refine ⟨(tracks_pushAll nodes).targets, fun place node found new => ?_, rfl, rfl⟩
  refine ⟨_, ?_, (tracks_pushAll (nodes.take place)).length_incoming new⟩
  rw [getElem?_pushAll, found]
  rfl

end Run

end CommitLanes.Layout
