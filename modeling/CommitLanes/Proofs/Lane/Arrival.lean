import CommitLanes.Proofs.Lane.Ledger

/-! A commit arrives: the edges that lead to it are led to its lane, then closed there.

Both loops go through places of a list that they change. What they leave behind is said of
the edges alone, once for every ledger and not only for those of a layout.
-/

set_option autoImplicit false

namespace CommitLanes

/-- The edge as a row shows it when the commit `target` stands on the lane. -/
def Edge.arriving (target : ObjectId) (lane : Lane) (edge : Edge) : Edge :=
  if edge.target = target then edge.ledTo lane else edge

theorem Edge.arriving_of_target {target : ObjectId} {edge : Edge} (same : edge.target = target) (lane : Lane) :
    edge.arriving target lane = edge.ledTo lane :=
  if_pos same

theorem Edge.arriving_of_ne {target : ObjectId} {edge : Edge} (other : edge.target ≠ target) (lane : Lane) :
    edge.arriving target lane = edge :=
  if_neg other

@[simp] theorem Edge.origin_arriving (target : ObjectId) (lane : Lane) (edge : Edge) :
    (edge.arriving target lane).origin = edge.origin := by
  unfold arriving
  split <;> rfl

@[simp] theorem Edge.target_arriving (target : ObjectId) (lane : Lane) (edge : Edge) :
    (edge.arriving target lane).target = edge.target := by
  unfold arriving
  split <;> rfl

namespace Lane.Ledger

section Converging

theorem foldl_converge_ofEdges (lane : Lane) (places : List Nat) (edges : List Edge) :
    places.foldl (fun ledger place => ledger.converge place lane) (ofEdges edges) =
      ofEdges (edges.mapIdx fun place edge => if place ∈ places then edge.ledTo lane else edge) := by
  induction places generalizing edges with
  | nil => exact congrArg ofEdges (List.mapIdx_eq_iff.mpr fun place => by simp).symm
  | cons first places ih =>
      rw [List.foldl_cons, converge_ofEdges, ih]
      congr 1
      apply List.ext_getElem?
      intro place
      rw [List.getElem?_mapIdx, List.getElem?_mapIdx, List.getElem?_modify, Option.map_eq_map,
        Option.map_map]
      congr 1
      funext edge
      -- A place that comes twice is led to the same lane twice.
      by_cases here : first = place
      · by_cases again : place ∈ places <;> simp [here, again, Edge.ledTo]
      · simp [here, Ne.symm here]

theorem converge_targeting (edges : List Edge) (target : ObjectId) (lane : Lane) :
    ((ofEdges edges).targeting target).foldl (fun ledger place => ledger.converge place lane) (ofEdges edges) =
      ofEdges (edges.map (Edge.arriving target lane)) := by
  rw [foldl_converge_ofEdges]
  congr 1
  apply List.ext_getElem?
  intro place
  rw [List.getElem?_mapIdx, List.getElem?_map]
  cases found : edges[place]? with
  | none => rfl
  | some edge => simp [mem_targeting_ofEdges, found, Edge.arriving]

end Converging

section Closing

theorem nthPlace?_eq_none {test : Edge → Bool} {position : Nat} {edges : List Edge}
    (few : edges.countP test ≤ position) : nthPlace? test position edges = none := by
  fun_induction nthPlace? test position edges with
  | case1 => rfl
  | case2 edge rest passes => simp [passes] at few
  | case3 edge rest passes position ih =>
      rw [List.countP_cons_of_pos passes] at few
      simp [ih (Nat.le_of_succ_le_succ few)]
  | case4 position edge rest fails ih =>
      rw [List.countP_cons_of_neg fails] at few
      simp [ih few]

theorem nthPlace?_split {test : Edge → Bool} {edge : Edge} (passes : test edge = true) (front back : List Edge) :
    nthPlace? test (front.countP test) (front ++ edge :: back) = some front.length := by
  induction front with
  | nil => simp [nthPlace?, passes]
  | cons first front ih =>
      by_cases counted : test first = true
      · simp [nthPlace?, counted, ih]
      · simp [nthPlace?, counted, ih]

theorem terminatingPlace?_ofEdges (edges : List Edge) (lane : Lane) (position : Nat) :
    (ofEdges edges).terminatingPlace? lane position =
      nthPlace? (fun edge => edge.terminal = lane) position edges := by
  unfold terminatingPlace?
  split
  · rfl
  -- The tally only spares the search: there would be nothing to find.
  next few =>
    rw [terminalsAt_ofEdges, List.count_eq_countP, List.countP_map] at few
    exact (nthPlace?_eq_none (Nat.le_of_not_lt few)).symm

variable {ledger : Ledger} {lane : Lane} {target : ObjectId} {position place : Nat}

theorem closeFrom_of_none (none : ledger.terminatingPlace? lane position = none) :
    ledger.closeFrom lane target position = ledger := by
  rw [closeFrom]
  split <;> simp_all

theorem closeFrom_of_arrived (found : ledger.terminatingPlace? lane position = some place)
    (arrived : ledger.edges[place]?.map (·.target) = some target) :
    ledger.closeFrom lane target position = (ledger.eraseAt place).closeFrom lane target position := by
  rw [closeFrom]
  split <;> simp_all

theorem closeFrom_of_other (found : ledger.terminatingPlace? lane position = some place)
    (other : ledger.edges[place]?.map (·.target) ≠ some target) :
    ledger.closeFrom lane target position = ledger.closeFrom lane target (position + 1) := by
  rw [closeFrom]
  split <;> simp_all

/-- The edges in front have been looked at and stay; the position counts those of them that
leave on the lane. -/
theorem closeFrom_ofEdges (lane : Lane) (target : ObjectId) (front back : List Edge) :
    (ofEdges (front ++ back)).closeFrom lane target (front.countP fun edge => edge.terminal = lane) =
      ofEdges (front ++ back.filter fun edge => ¬(edge.terminal = lane ∧ edge.target = target)) := by
  induction back generalizing front with
  | nil =>
      rw [closeFrom_of_none]
      · simp
      · rw [terminatingPlace?_ofEdges]
        exact nthPlace?_eq_none (by simp)
  | cons edge back ih =>
      by_cases leaves : edge.terminal = lane
      -- After a removal the same position names the next edge; otherwise one more is counted.
      · have found : (ofEdges (front ++ edge :: back)).terminatingPlace? lane
            (front.countP fun edge => edge.terminal = lane) = some front.length := by
          rw [terminatingPlace?_ofEdges]
          exact nthPlace?_split (decide_eq_true leaves) front back
        by_cases arrived : edge.target = target
        · rw [closeFrom_of_arrived found (by simp [arrived]), eraseAt_ofEdges]
          simpa [leaves, arrived, List.eraseIdx_append_of_length_le] using ih front
        · rw [closeFrom_of_other found (by simp [arrived])]
          simpa [leaves, arrived] using ih (front ++ [edge])
      · simpa [leaves] using ih (front ++ [edge])

theorem closeAt_ofEdges (edges : List Edge) (lane : Lane) (target : ObjectId) :
    (ofEdges edges).closeAt lane target =
      ofEdges (edges.filter fun edge => ¬(edge.terminal = lane ∧ edge.target = target)) :=
  closeFrom_ofEdges lane target [] edges

/-- Of edges that were led to the commit's lane, those that lead to it are closed and the
others are as they were. -/
theorem closeAt_arriving (edges : List Edge) (target : ObjectId) (lane : Lane) :
    (ofEdges (edges.map (Edge.arriving target lane))).closeAt lane target =
      ofEdges (edges.filter fun edge => edge.target ≠ target) := by
  rw [closeAt_ofEdges]
  congr 1
  induction edges with
  | nil => rfl
  | cons edge edges ih =>
      by_cases arrives : edge.target = target
      · simpa [arrives, Edge.arriving_of_target arrives] using ih
      · simpa [arrives, Edge.arriving_of_ne arrives] using ih

end Closing

end Lane.Ledger

end CommitLanes
