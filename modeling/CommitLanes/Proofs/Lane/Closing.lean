import CommitLanes.Proofs.Lane.Refinement

/-! The loop that closes what has arrived on a lane.

It walks by positions through edges that it takes out on the way: behind an edge that is closed the
next one moves up to the same position, and only an edge that stays is stepped over. Whatever other
edges share the lane, each edge on it is looked at once, and then the loop has come to its end.
-/

set_option autoImplicit false

namespace CommitLanes.Lane.Ledger

/-- The turns of the loop from a position on, up to the ledger that it leaves, with the edges that
it looks at. No ledger and position have two ways to go on. -/
inductive Sweep (lane : Lane) (target : ObjectId) : Ledger → Nat → List Edge → Ledger → Prop where
  | ends {ledger : Ledger} {position : Nat} (none : ledger.terminating? lane position = none) :
      Sweep lane target ledger position [] ledger
  | closes {ledger final : Ledger} {position : Nat} {edge : Edge} {looked : List Edge}
      (found : ledger.terminating? lane position = some edge) (arrived : edge.target = target)
      (rest : Sweep lane target (ledger.resolve lane position).2 position looked final) :
      Sweep lane target ledger position (edge :: looked) final
  | passes {ledger final : Ledger} {position : Nat} {edge : Edge} {looked : List Edge}
      (found : ledger.terminating? lane position = some edge) (other : edge.target ≠ target)
      (rest : Sweep lane target ledger (position + 1) looked final) :
      Sweep lane target ledger position (edge :: looked) final

section Turns

variable {ledger final : Ledger} {lane : Lane} {target : ObjectId} {position : Nat} {edge : Edge}
  {edges looked : List Edge}

theorem terminating?_eq_some_iff : ledger.terminating? lane position = some edge ↔
    ∃ place, ledger.terminatingPlace? lane position = some place ∧ ledger.edges[place]? = some edge :=
  Option.bind_eq_some_iff

theorem terminating?_eq_none_iff :
    ledger.terminating? lane position = none ↔ ledger.terminatingPlace? lane position = none := by
  refine ⟨fun none => ?_, fun none => by rw [terminating?, none, Option.bind_none]⟩
  cases found : ledger.terminatingPlace? lane position with
  | none => rfl
  | some place =>
      rw [terminating?, found, Option.bind_some, List.getElem?_eq_none_iff] at none
      exact absurd (terminatingPlace?_lt found) (Nat.not_lt.mpr none)

theorem resolve_of_place {place : Nat} (found : ledger.terminatingPlace? lane position = some place) :
    (ledger.resolve lane position).2 = ledger.eraseAt place := by
  rw [resolve, found]

theorem Sweep.closeFrom_eq (sweep : Sweep lane target ledger position looked final) :
    ledger.closeFrom lane target position = final := by
  induction sweep with
  | ends none => exact closeFrom_of_none (terminating?_eq_none_iff.mp none)
  | closes found arrived _ ih =>
      obtain ⟨place, there, here⟩ := terminating?_eq_some_iff.mp found
      rw [closeFrom_of_arrived there (by rw [here, Option.map_some, arrived]), ← resolve_of_place there, ih]
  | passes found other _ ih =>
      obtain ⟨place, there, here⟩ := terminating?_eq_some_iff.mp found
      rw [closeFrom_of_other there (by simpa [here] using other), ih]

/-- The loop ends, from wherever it sets out. -/
theorem exists_sweep (ledger : Ledger) (lane : Lane) (target : ObjectId) (position : Nat) :
    ∃ looked, Sweep lane target ledger position looked (ledger.closeFrom lane target position) := by
  fun_induction closeFrom ledger lane target position with
  | case1 ledger position none => exact ⟨[], .ends (terminating?_eq_none_iff.mpr none)⟩
  | case2 ledger position place there arrived ih =>
      obtain ⟨looked, rest⟩ := ih
      obtain ⟨edge, here, arrived⟩ := Option.map_eq_some_iff.mp arrived
      refine ⟨edge :: looked, .closes (terminating?_eq_some_iff.mpr ⟨place, there, here⟩) arrived ?_⟩
      rwa [resolve_of_place there]
  | case3 ledger position place there other ih =>
      obtain ⟨looked, rest⟩ := ih
      have here := List.getElem?_eq_getElem (terminatingPlace?_lt there)
      rw [here] at other
      exact ⟨_ :: looked, .passes (terminating?_eq_some_iff.mpr ⟨place, there, here⟩)
        (fun arrived => other (congrArg some arrived)) rest⟩

theorem resolve_ofEdges (found : (ofEdges edges).terminating? lane position = some edge) :
    ∃ front back, edges = front ++ edge :: back ∧ edge.terminal = lane ∧
      (front.countP fun other => other.terminal = lane) = position ∧
      ((ofEdges edges).resolve lane position).2 = ofEdges (front ++ back) := by
  rw [terminating?_ofEdges] at found
  have many : position < edges.countP fun other => other.terminal = lane := by
    rw [List.countP_eq_length_filter]
    exact (List.getElem?_eq_some_iff.mp found).1
  obtain ⟨front, first, back, rfl, leaves, rfl⟩ := exists_nth many
  obtain rfl : first = edge := Option.some.inj ((getElem?_filter_split leaves front back).symm.trans found)
  refine ⟨front, back, rfl, of_decide_eq_true leaves, rfl, ?_⟩
  rw [resolve_of_place ((terminatingPlace?_ofEdges _ _ _).trans (nthPlace?_split leaves front back)),
    eraseAt_ofEdges]
  simp [List.eraseIdx_append_of_length_le]

/-- From its position on, every edge on the lane is looked at, once and in order. -/
theorem Sweep.looked_eq (sweep : Sweep lane target (ofEdges edges) position looked final) :
    looked = (edges.filter fun edge => edge.terminal = lane).drop position := by
  generalize counted : ofEdges edges = ledger at sweep
  induction sweep generalizing edges with subst counted
  | ends none =>
      rw [terminating?_ofEdges, List.getElem?_eq_none_iff] at none
      exact (List.drop_eq_nil_of_le none).symm
  | closes found _ _ ih =>
      obtain ⟨front, back, rfl, leaves, rfl, left⟩ := resolve_ofEdges found
      rw [ih left.symm, List.countP_eq_length_filter]
      simp [leaves]
  | passes found _ _ ih =>
      rw [terminating?_ofEdges] at found
      obtain ⟨inside, rfl⟩ := List.getElem?_eq_some_iff.mp found
      rw [ih rfl, List.getElem_cons_drop]

end Turns

/-- Whatever was done to a ledger before, the loop ends when it has looked at each edge on the lane
once. The edges that lead to the commit are gone then, all others are as they were, and every question
is answered as a recount of these would answer it. -/
theorem closing_takes_what_arrived (history : List Change) (lane : Lane) (target : ObjectId) :
    let ledger := empty.changeAll history
    let closed := ledger.closeAt lane target
    (∀ looked final, Sweep lane target ledger 0 looked final ↔
      looked = (ledger.edges.filter fun edge => edge.terminal = lane) ∧ final = closed) ∧
    closed.edges = (ledger.edges.filter fun edge => ¬(edge.terminal = lane ∧ edge.target = target)) ∧
    closed.Faithful := by
  intro ledger closed
  obtain ⟨edges, same⟩ : ∃ edges, ledger = ofEdges edges := changeAll_ofEdges [] history
  have left : closed = ofEdges (edges.filter fun edge => ¬(edge.terminal = lane ∧ edge.target = target)) := by
    rw [← closeAt_ofEdges, ← same]
  have every : ∀ {looked final}, Sweep lane target ledger 0 looked final →
      looked = ledger.edges.filter fun edge => edge.terminal = lane := by
    intro looked final sweep
    rw [same] at sweep ⊢
    exact sweep.looked_eq
  refine ⟨fun looked final => ⟨fun sweep => ⟨every sweep, sweep.closeFrom_eq.symm⟩, ?_⟩, ?_, ?_⟩
  · rintro ⟨rfl, rfl⟩
    obtain ⟨looked, sweep⟩ := exists_sweep ledger lane target 0
    exact every sweep ▸ sweep
  · rw [left, same]
    rfl
  · rw [left]
    exact faithful_ofEdges _

/-- An edge that leads elsewhere stands between two that have arrived on the same lane. -/
example :
    let named (byte : UInt8) : ObjectId := ⟨List.replicate 20 byte, .inl rfl⟩
    let ledger := empty.changeAll
      [.add 2 (named 1) .firstParent, .add 2 (named 7) .merge, .add 0 (named 1) .merge, .converge 2 2]
    ledger.closeAt 2 (named 1) = ofEdges [.straight 2 (named 7) .merge] := by decide +kernel

end CommitLanes.Lane.Ledger
