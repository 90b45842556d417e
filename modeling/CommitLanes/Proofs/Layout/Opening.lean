import CommitLanes.Layout
import CommitLanes.Proofs.Lane.Arrival

/-! What a commit opens: one edge for every parent that is listed for the first time and has
not been laid out, each on the first lane that is free by then.
-/

set_option autoImplicit false

namespace CommitLanes.Layout

open Lane (FirstFree)
open Lane.Ledger (firstFree_of_straight add_ofEdges)

/-- The listed parents that get an edge, in the order of their first listings. -/
def firstListed (seen listed : List ObjectId) : List ObjectId :=
  listed.eraseDups.filter fun parent => parent ∉ seen

theorem mem_firstListed {seen listed : List ObjectId} {parent : ObjectId} :
    parent ∈ firstListed seen listed ↔ parent ∈ listed ∧ parent ∉ seen := by
  simp [firstListed, List.mem_filter, List.mem_eraseDups]

theorem firstListed_append (seen listed : List ObjectId) (parent : ObjectId) :
    firstListed seen (listed ++ [parent]) =
      if parent ∈ seen ∨ parent ∈ listed then firstListed seen listed
      else firstListed seen listed ++ [parent] := by
  unfold firstListed
  rw [List.eraseDups_append, List.filter_append]
  by_cases again : parent ∈ listed
  · simp [List.removeAll, again]
  · by_cases early : parent ∈ seen
    · simp [List.removeAll, again, early]
    · simp [List.removeAll, again, early, List.eraseDups_cons]

/-- The edges of a commit itself. The first continues its line, the others branch off. -/
def ownEdges (lanes : List Lane) (parents : List ObjectId) : List Edge :=
  (lanes.zip parents).mapIdx fun place pair =>
    Edge.straight pair.1 pair.2 (if place = 0 then .firstParent else .merge)

theorem ownEdges_append {lanes : List Lane} {parents : List ObjectId} (paired : lanes.length = parents.length)
    (lane : Lane) (parent : ObjectId) :
    ownEdges (lanes ++ [lane]) (parents ++ [parent]) =
      ownEdges lanes parents ++
        [Edge.straight lane parent (if lanes.isEmpty then .firstParent else .merge)] := by
  have start : lanes.length = 0 ↔ lanes.isEmpty = true := by
    rw [List.length_eq_zero_iff, List.isEmpty_iff]
  simp [ownEdges, List.zip_append paired, ← paired, start]

theorem straight_ownEdges {lanes : List Lane} {parents : List ObjectId} :
    ∀ edge ∈ ownEdges lanes parents, edge.terminal = edge.origin := by
  intro edge member
  obtain ⟨place, inside, rfl⟩ := List.mem_mapIdx.mp member
  rfl

theorem map_ownEdges {α : Type} {view : Edge → α} {part : Lane × ObjectId → α}
    (same : ∀ lane parent kind, view (Edge.straight lane parent kind) = part (lane, parent))
    (lanes : List Lane) (parents : List ObjectId) :
    (ownEdges lanes parents).map view = (lanes.zip parents).map part := by
  apply List.ext_getElem?
  intro place
  rw [List.getElem?_map, List.getElem?_map, ownEdges, List.getElem?_mapIdx, Option.map_map]
  congr 1
  funext pair
  exact same _ _ _

theorem map_origin_ownEdges {lanes : List Lane} {parents : List ObjectId}
    (paired : lanes.length = parents.length) : (ownEdges lanes parents).map (·.origin) = lanes := by
  have firsts : (ownEdges lanes parents).map (·.origin) = (lanes.zip parents).map Prod.fst :=
    map_ownEdges (fun _ _ _ => rfl) lanes parents
  rw [firsts, List.map_fst_zip (Nat.le_of_eq paired)]

theorem map_target_ownEdges {lanes : List Lane} {parents : List ObjectId}
    (paired : lanes.length = parents.length) : (ownEdges lanes parents).map (·.target) = parents := by
  have seconds : (ownEdges lanes parents).map (·.target) = (lanes.zip parents).map Prod.snd :=
    map_ownEdges (fun _ _ _ => rfl) lanes parents
  rw [seconds, List.map_snd_zip (Nat.le_of_eq paired.symm)]

/-- Lanes as they are given to the edges of a commit that stands on `lane`, beside edges that
have taken theirs. -/
inductive Branching (taken : List Lane) (lane : Lane) : List Lane → Prop where
  | none : Branching taken lane []
  | first : Branching taken lane [lane]
  | next {lanes : List Lane} {other : Lane} : Branching taken lane lanes → lanes ≠ [] →
      FirstFree (taken ++ lanes) other → Branching taken lane (lanes ++ [other])

section Branching

variable {taken lanes : List Lane} {lane : Lane}

theorem Branching.head (branching : Branching taken lane lanes) (some : lanes ≠ []) :
    lanes.head? = Option.some lane := by
  induction branching with
  | none => exact absurd rfl some
  | first => rfl
  | @next before other branching nonempty free ih =>
      cases before with
      | nil => exact absurd rfl nonempty
      | cons head tail => exact ih nonempty

theorem Branching.distinct (branching : Branching taken lane lanes) (apart : taken.Nodup)
    (vacant : lane ∉ taken) : (taken ++ lanes).Nodup := by
  induction branching with
  | none => simpa using apart
  | first => simpa [List.nodup_append] using ⟨apart, fun other member same => vacant (same ▸ member)⟩
  | @next before other branching nonempty free ih =>
      rw [← List.append_assoc, List.nodup_append]
      refine ⟨ih, by simp, ?_⟩
      rintro earlier member _ (_ | ⟨_, ⟨⟩⟩) rfl
      exact free.free member

/-- A branch is never further out than all lanes in use together need. -/
theorem Branching.lt (branching : Branching taken lane lanes) {branch : Lane} (member : branch ∈ lanes) :
    branch = lane ∨ branch < taken.length + lanes.length := by
  induction branching with
  | none => cases member
  | first => exact .inl (List.mem_singleton.mp member)
  | @next before other branching nonempty free ih =>
      rw [List.length_append, List.length_singleton]
      rcases List.mem_append.mp member with earlier | last
      · exact (ih earlier).imp id fun inside => Nat.lt_succ_of_lt inside
      · have bound := free.le_length
        rw [List.length_append] at bound
        exact .inr (Nat.lt_succ_of_le (List.mem_singleton.mp last ▸ bound))

end Branching

structure Opening.Follows (seen : List ObjectId) (kept : List Edge) (lane : Lane) (listed : List ObjectId)
    (opening : Opening) : Prop where
  registered : opening.registered = firstListed seen listed
  paired : opening.parentLanes.length = opening.registered.length
  branching : Branching (kept.map (·.origin)) lane opening.parentLanes
  ledger : opening.ledger = .ofEdges (kept ++ ownEdges opening.parentLanes opening.registered)

section Opening

variable {seen listed : List ObjectId} {kept : List Edge} {lane : Lane} {opening : Opening}

theorem Opening.follows_nil (seen : List ObjectId) (kept : List Edge) (lane : Lane) :
    Opening.Follows seen kept lane [] ⟨.ofEdges kept, [], [], []⟩ :=
  ⟨rfl, rfl, .none, by simp [ownEdges]⟩

theorem Opening.Follows.parent (follows : opening.Follows seen kept lane listed)
    (straight : ∀ edge ∈ kept, edge.terminal = edge.origin) (commit parent : ObjectId) :
    (opening.parent seen commit lane parent).Follows seen kept lane (listed ++ [parent]) := by
  obtain ⟨registered, paired, branching, ledger⟩ := follows
  have known : parent ∉ seen → (parent ∈ opening.registered ↔ parent ∈ listed) := fun fresh => by
    rw [registered, mem_firstListed, and_iff_left fresh]
  unfold Opening.parent
  split
  next early =>
    refine ⟨?_, paired, branching, ledger⟩
    rw [firstListed_append, if_pos (.inl early)]
    exact registered
  next fresh =>
    split
    next again =>
      refine ⟨?_, paired, branching, ledger⟩
      rw [firstListed_append, if_pos (.inr ((known fresh).mp again))]
      exact registered
    next new =>
      have extended : firstListed seen (listed ++ [parent]) = opening.registered ++ [parent] := by
        rw [firstListed_append, if_neg, registered]
        exact fun either => either.elim fresh fun again => new ((known fresh).mpr again)
      refine ⟨extended.symm, by simp [paired], ?_, ?_⟩
      · by_cases first : opening.parentLanes = []
        · simpa [first] using Branching.first
        · have all : ∀ edge ∈ kept ++ ownEdges opening.parentLanes opening.registered,
              edge.terminal = edge.origin :=
            fun edge member => (List.mem_append.mp member).elim (straight edge) (straight_ownEdges edge)
          have free := firstFree_of_straight all
          rw [List.map_append, map_origin_ownEdges paired, ← ledger] at free
          simpa [first] using Branching.next branching first free
      · simp only [ledger, add_ofEdges, List.append_assoc, ownEdges_append paired]

theorem Opening.Follows.parents (straight : ∀ edge ∈ kept, edge.terminal = edge.origin) (commit : ObjectId)
    (rest : List ObjectId) (follows : opening.Follows seen kept lane listed) :
    (rest.foldl (Opening.parent seen commit lane) opening).Follows seen kept lane (listed ++ rest) := by
  induction rest generalizing opening listed with
  | nil => simpa using follows
  | cons parent rest ih => simpa using ih (follows.parent straight commit parent)

theorem openParents_follows (straight : ∀ edge ∈ kept, edge.terminal = edge.origin) (seen : List ObjectId)
    (node : Commit) (lane : Lane) :
    (openParents (.ofEdges kept) seen node lane).Follows seen kept lane node.parents :=
  Opening.Follows.parents straight node.id node.parents (Opening.follows_nil seen kept lane)

end Opening

end CommitLanes.Layout
