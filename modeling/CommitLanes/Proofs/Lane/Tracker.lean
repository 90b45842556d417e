import CommitLanes.Lane.Tracker
import CommitLanes.Proofs.Lane.Gauge
import Mathlib.Data.List.Induction
import Mathlib.Data.List.Infix

/-! The ledger over its tables is the ledger.

As long as there are fewer edges than a count can hold, no change reads or writes a place that is not
there, and no count is lowered that is zero. So the tables stay those that stand for the tallies,
and the answers are the ledger's.
-/

set_option autoImplicit false

namespace CommitLanes.Lane

namespace Gauge

variable {gauge after : Gauge} {lane other : Lane} {gone : List Lane}

theorem turn?_nothing (gauge : Gauge) : gauge.turn? ⟨[], []⟩ = some gauge :=
  rfl

theorem bump?_of_turn? (turned : gauge.turn? ⟨[], [lane]⟩ = some after) : gauge.bump? lane = some after := by
  simpa [turn?, takeBack?] using turned

theorem drop?_of_takeBack? (taken : gauge.takeBack? (lane :: gone) = some after) :
    ∃ left, gauge.drop? lane = some left ∧ left.takeBack? gone = some after := by
  rw [takeBack?] at taken
  split at taken
  · cases taken
  · exact Option.bind_eq_some_iff.mp taken

theorem takeBack?_of_turn? (turned : gauge.turn? ⟨gone, []⟩ = some after) : gauge.takeBack? gone = some after := by
  simpa [turn?] using turned

theorem drop?_of_turn? (turned : gauge.turn? ⟨[lane], []⟩ = some after) : gauge.drop? lane = some after := by
  obtain ⟨left, dropped, same⟩ := drop?_of_takeBack? (takeBack?_of_turn? turned)
  cases same
  exact dropped

theorem exists_of_turn? (turned : gauge.turn? ⟨[lane], [other]⟩ = some after) :
    ∃ left, gauge.drop? lane = some left ∧ left.bump? other = some after := by
  obtain ⟨left, taken, made⟩ := Option.bind_eq_some_iff.mp turned
  obtain ⟨next, dropped, same⟩ := drop?_of_takeBack? taken
  cases same
  exact ⟨left, dropped, by simpa using made⟩

end Gauge

namespace Tracker

open Ledger (Answer Change Step ofEdges)

structure Mirrors (tracker : Tracker) (ledger : Ledger) : Prop where
  edges : tracker.edges = ledger.edges
  origins : tracker.origins.Mirrors ledger.origins
  terminals : tracker.terminals.Mirrors ledger.terminals

structure Agrees (tracker : Tracker) (ledger : Ledger) : Prop where
  size : tracker.size = ledger.size
  isEmpty : tracker.isEmpty = ledger.isEmpty
  originsAt : ∀ lane, tracker.originsAt lane = ledger.originsAt lane
  terminalsAt : ∀ lane, tracker.terminalsAt lane = ledger.terminalsAt lane
  originWidth : tracker.originWidth = ledger.originWidth
  terminalWidth : tracker.terminalWidth = ledger.terminalWidth
  originating : ∀ lane position, tracker.originating? lane position = ledger.originating? lane position
  terminating : ∀ lane position, tracker.terminating? lane position = ledger.terminating? lane position
  isFree : ∀ lane, tracker.isFree lane = ledger.isFree lane
  lowestFreeLane : tracker.lowestFreeLane = ledger.lowestFreeLane
  targeting : ∀ target, tracker.targeting target = ledger.targeting target

/-- The change is made with every check passed and the ledger's answer. But where both tables are
cleared at once, each entry that it takes back was there. -/
structure Follows (tracker : Tracker) (ledger : Ledger) (change : Change) (after : Tracker) : Prop where
  changed : tracker.change? change = some ((ledger.change change).1, after)
  mirrors : after.Mirrors (ledger.change change).2
  origins : change = .drain ∨ tracker.origins.turn? (change.origins ledger.edges) = some after.origins
  terminals : change = .drain ∨ tracker.terminals.turn? (change.terminals ledger.edges) = some after.terminals

variable {tracker : Tracker} {ledger : Ledger} {edges : List Edge} {change : Change} {origins terminals : Gauge}
  {lane : Lane} {position place : Nat}

section Questions

theorem Mirrors.originsAt (mirrors : tracker.Mirrors ledger) (lane : Lane) :
    tracker.originsAt lane = ledger.originsAt lane :=
  mirrors.origins.count lane

theorem Mirrors.terminalsAt (mirrors : tracker.Mirrors ledger) (lane : Lane) :
    tracker.terminalsAt lane = ledger.terminalsAt lane :=
  mirrors.terminals.count lane

theorem Mirrors.terminatingPlace? (mirrors : tracker.Mirrors ledger) (lane : Lane) (position : Nat) :
    tracker.terminatingPlace? lane position = ledger.terminatingPlace? lane position := by
  rw [Tracker.terminatingPlace?, Ledger.terminatingPlace?, mirrors.terminalsAt, mirrors.edges]

theorem Mirrors.agrees (mirrors : tracker.Mirrors ledger) : tracker.Agrees ledger := by
  have isFree : tracker.isFree = ledger.isFree := funext fun lane => by
    rw [Tracker.isFree, Ledger.isFree, mirrors.originsAt, mirrors.terminalsAt]
  have originWidth : tracker.originWidth = ledger.originWidth := mirrors.origins.mark
  have terminalWidth : tracker.terminalWidth = ledger.terminalWidth := mirrors.terminals.mark
  have size : tracker.size = ledger.size := congrArg List.length mirrors.edges
  refine
    { size, originWidth, terminalWidth
      isEmpty := congrArg List.isEmpty mirrors.edges
      originsAt := mirrors.originsAt
      terminalsAt := mirrors.terminalsAt
      isFree := congrFun isFree
      originating := fun lane position => ?_
      terminating := fun lane position => ?_
      lowestFreeLane := ?_
      targeting := fun target => ?_ }
  · rw [Tracker.originating?, Ledger.originating?, mirrors.originsAt, mirrors.edges]
  · rw [Tracker.terminating?, Ledger.terminating?, mirrors.terminatingPlace?, mirrors.edges]
  · rw [Tracker.lowestFreeLane, Ledger.lowestFreeLane, originWidth, terminalWidth, isFree]
  · rw [Tracker.targeting, Ledger.targeting, size, mirrors.edges]

end Questions

section Changes

def outcome (ledger : Ledger) (change : Change) (origins terminals : Gauge) : Answer × Tracker :=
  ((ledger.change change).1, ⟨(ledger.change change).2.edges, origins, terminals⟩)

theorem change?_add {target : ObjectId} {kind : Edge.Kind} (mirrors : tracker.Mirrors ledger)
    (first : tracker.origins.turn? ⟨[], [lane]⟩ = some origins)
    (second : tracker.terminals.turn? ⟨[], [lane]⟩ = some terminals) :
    tracker.change? (.add lane target kind) = some (outcome ledger (.add lane target kind) origins terminals) := by
  rw [change?, add?, Gauge.bump?_of_turn? first, Gauge.bump?_of_turn? second, size, mirrors.edges]
  rfl

theorem change?_converge (mirrors : tracker.Mirrors ledger)
    (first : tracker.origins.turn? ((Change.converge place lane).origins ledger.edges) = some origins)
    (second : tracker.terminals.turn? ((Change.converge place lane).terminals ledger.edges) = some terminals) :
    tracker.change? (.converge place lane) = some (outcome ledger (.converge place lane) origins terminals) := by
  rw [Change.origins, Gauge.turn?_nothing] at first
  rw [Change.terminals] at second
  rw [change?, converge?, outcome, Ledger.change, Ledger.converge, mirrors.edges]
  cases first
  cases found : ledger.edges[place]? with
  | none =>
      rw [found] at second
      cases second
      rw [← mirrors.edges]
      rfl
  | some edge =>
      rw [found] at second
      obtain ⟨left, dropped, bumped⟩ := Gauge.exists_of_turn? second
      simp [dropped, bumped]

theorem change?_resolve (mirrors : tracker.Mirrors (ofEdges edges))
    (first : tracker.origins.turn? ((Change.resolve lane position).origins edges) = some origins)
    (second : tracker.terminals.turn? ((Change.resolve lane position).terminals edges) = some terminals) :
    tracker.change? (.resolve lane position) =
      some (outcome (ofEdges edges) (.resolve lane position) origins terminals) := by
  rw [Change.origins, ← Ledger.terminating?_ofEdges, Ledger.terminating?] at first
  rw [Change.terminals, ← Ledger.terminating?_ofEdges, Ledger.terminating?] at second
  rw [change?, resolve?, mirrors.terminatingPlace?, outcome, Ledger.change, Ledger.resolve]
  cases there : (ofEdges edges).terminatingPlace? lane position with
  | none =>
      rw [there] at first second
      cases first
      cases second
      exact congrArg (fun kept => some (Answer.edge none, { tracker with edges := kept })) mirrors.edges
  | some place =>
      obtain ⟨edge, here⟩ : ∃ edge, edges[place]? = some edge :=
        ⟨_, List.getElem?_eq_getElem (Ledger.terminatingPlace?_lt there)⟩
      rw [there, Option.bind_some, Ledger.edges_ofEdges, here] at first second
      have dropped := Gauge.drop?_of_turn? first
      have dropped' := Gauge.drop?_of_turn? second
      simp [mirrors.edges, here, drop?, dropped, dropped', Ledger.eraseAt]

theorem foldlM_drop? (kept : List Edge) {closed : List Edge} {start start' : Gauge}
    (first : start.takeBack? (closed.map fun _ => lane) = some origins)
    (second : start'.takeBack? (closed.map (·.terminal)) = some terminals) :
    (closed.map (·.terminal)).foldlM (fun (tracker : Tracker) terminal => tracker.drop? lane terminal)
      ⟨kept, start, start'⟩ = some ⟨kept, origins, terminals⟩ := by
  induction closed generalizing start start' with
  | nil =>
      cases first
      cases second
      rfl
  | cons edge closed ih =>
      obtain ⟨left, dropped, first⟩ := Gauge.drop?_of_takeBack? first
      obtain ⟨left', dropped', second⟩ := Gauge.drop?_of_takeBack? second
      have next : drop? ⟨kept, start, start'⟩ lane edge.terminal = some ⟨kept, left, left'⟩ := by
        rw [drop?, dropped, dropped']
        rfl
      rw [List.map_cons, List.foldlM_cons, next]
      exact ih first second

theorem change?_clear (mirrors : tracker.Mirrors (ofEdges edges))
    (first : tracker.origins.turn? ((Change.clear lane).origins edges) = some origins)
    (second : tracker.terminals.turn? ((Change.clear lane).terminals edges) = some terminals) :
    tracker.change? (.clear lane) = some (outcome (ofEdges edges) (.clear lane) origins terminals) := by
  have sameEdges : tracker.edges = edges := mirrors.edges
  have counted : tracker.originsAt lane = edges.countP fun edge => edge.origin = lane :=
    (mirrors.originsAt lane).trans ((Ledger.faithful_ofEdges edges).originsAt lane)
  rw [change?, clear?, sameEdges, outcome]
  simp only [Ledger.change, Ledger.clear_ofEdges]
  split
  next none =>
    -- Where no edge enters on the lane, the list is left as it is too.
    have closed : (edges.filter fun edge => edge.origin = lane) = [] := by
      rw [counted, List.countP_eq_length_filter] at none
      exact List.eq_nil_of_length_eq_zero none
    have kept : (edges.filter fun edge => edge.origin ≠ lane) = edges :=
      List.filter_eq_self.mpr fun edge member => by
        simpa using List.filter_eq_nil_iff.mp closed edge member
    rw [Change.origins, closed] at first
    rw [Change.terminals, closed] at second
    cases first
    cases second
    rw [closed, kept, ← sameEdges]
    rfl
  next =>
    have sameLane : ((edges.filter fun edge => edge.origin = lane).map fun _ => lane) =
        (edges.filter fun edge => edge.origin = lane).map (·.origin) :=
      List.map_congr_left fun edge member => (of_decide_eq_true (List.mem_filter.mp member).2).symm
    have first := Gauge.takeBack?_of_turn? first
    rw [← sameLane] at first
    simp only [foldlM_drop? _ first (Gauge.takeBack?_of_turn? second), List.length_map]
    rfl

theorem count_ofLanes_lt (few : edges.length < UInt32.size) (laneOf : Edge → Lane) (lane : Lane) :
    (Tally.ofLanes (edges.map laneOf)).count lane < UInt32.size := by
  rw [Tally.count_ofLanes]
  exact Nat.lt_of_le_of_lt List.count_le_length (by rwa [List.length_map])

theorem exists_follows (mirrors : tracker.Mirrors (ofEdges edges)) (change : Change)
    (few : ((ofEdges edges).change change).2.size < UInt32.size) :
    ∃ after, tracker.Follows (ofEdges edges) change after := by
  have performed := Ledger.performs_change edges change
  obtain ⟨origins, first, sameOrigins⟩ := Gauge.turn?_mirrors mirrors.origins performed.origins <| by
    rw [performed.recounted]
    exact count_ofLanes_lt few _
  obtain ⟨terminals, second, sameTerminals⟩ := Gauge.turn?_mirrors mirrors.terminals performed.terminals <| by
    rw [performed.recounted]
    exact count_ofLanes_lt few _
  have follows (made : tracker.change? change = some (outcome (ofEdges edges) change origins terminals)) :
      ∃ after, tracker.Follows (ofEdges edges) change after :=
    ⟨_, made, ⟨rfl, sameOrigins, sameTerminals⟩, .inr first, .inr second⟩
  cases change with
  | add lane target kind => exact follows (change?_add mirrors first second)
  | converge place lane => exact follows (change?_converge mirrors first second)
  | resolve lane position => exact follows (change?_resolve mirrors first second)
  | clear lane => exact follows (change?_clear mirrors first second)
  | drain =>
      -- The tables are thrown away whole, with whatever they count.
      refine ⟨empty, ?_, ⟨rfl, Gauge.mirrors_empty, Gauge.mirrors_empty⟩, .inl rfl, .inl rfl⟩
      rw [change?, drain, mirrors.edges]
      rfl

end Changes

section Runs

variable {history : List Change}

/-- At no time are there more edges than a count can hold. -/
def Fits (history : List Change) : Prop :=
  ∀ past, past <+: history → (Ledger.empty.changeAll past).size < UInt32.size

theorem exists_mirrors (fits : Fits history) :
    ∃ tracker, empty.changeAll? history = some tracker ∧ tracker.Mirrors (Ledger.empty.changeAll history) := by
  induction history using List.reverseRecOn with
  | nil => exact ⟨empty, rfl, rfl, Gauge.mirrors_empty, Gauge.mirrors_empty⟩
  | append_singleton past change ih =>
      obtain ⟨tracker, reached, mirrors⟩ :=
        ih fun earlier isStart => fits earlier (isStart.trans (List.prefix_append past [change]))
      obtain ⟨edges, same⟩ : ∃ edges, Ledger.empty.changeAll past = ofEdges edges :=
        Ledger.changeAll_ofEdges [] past
      have whole : Ledger.empty.changeAll (past ++ [change]) = ((ofEdges edges).change change).2 := by
        rw [← same, Ledger.changeAll, List.foldl_append]
        rfl
      rw [same] at mirrors
      have few := fits _ (List.prefix_refl _)
      rw [whole] at few ⊢
      obtain ⟨after, followed⟩ := exists_follows mirrors change few
      refine ⟨after, ?_, followed.mirrors⟩
      rw [changeAll?] at reached ⊢
      rw [List.foldlM_append, reached]
      simp [followed.changed]

end Runs

end Tracker

/-- Whatever was done to a ledger since it was empty, it answers as its edges do, the next change
is a change of its edges, and both tallies can give back what that change takes from them. With the
counts in their tables it does and answers the same, and every change passes every check, as long
as a count can hold the edges. -/
theorem Ledger.refines_edge_list (history : List Change) :
    let ledger := empty.changeAll history
    ledger.Faithful ∧
    (∀ change,
      Step ledger.edges change (ledger.change change).1 (ledger.change change).2.edges ∧
      ledger.origins.turn (change.origins ledger.edges) = some (ledger.change change).2.origins ∧
      ledger.terminals.turn (change.terminals ledger.edges) = some (ledger.change change).2.terminals) ∧
    (Tracker.Fits history → ∃ tracker, Tracker.empty.changeAll? history = some tracker ∧
      tracker.Mirrors ledger ∧ tracker.Agrees ledger ∧
      ∀ change, (ledger.change change).2.size < UInt32.size → ∃ after, tracker.Follows ledger change after) := by
  intro ledger
  -- The tallies stay those of the edges counted anew, so one step from such a ledger is enough.
  obtain ⟨edges, same⟩ : ∃ edges, ledger = ofEdges edges := changeAll_ofEdges [] history
  refine ⟨?_, fun change => ?_, fun fits => ?_⟩
  · rw [same]
    exact faithful_ofEdges edges
  · rw [same]
    have performed := performs_change edges change
    exact ⟨performed.step, performed.origins, performed.terminals⟩
  · obtain ⟨tracker, reached, mirrors⟩ := Tracker.exists_mirrors fits
    refine ⟨tracker, reached, mirrors, mirrors.agrees, fun change few => ?_⟩
    rw [same] at few ⊢
    exact Tracker.exists_follows (same ▸ mirrors) change few

/-- Two lanes are given up at once. Both marks come down, the second past lanes that were never used,
and the tables stay as long as they were. -/
theorem Ledger.refines_edge_list_freed :
    let named (byte : UInt8) : ObjectId := ⟨List.replicate 20 byte, .inl rfl⟩
    let history : List Change := [.add 2 (named 1) .firstParent, .add 0 (named 7) .merge, .converge 0 4, .clear 2]
    Tracker.Fits history ∧ ((empty.changeAll history).change (.resolve 0 0)).2.size < UInt32.size ∧
      ∃ tracker, Tracker.empty.changeAll? history = some tracker ∧ tracker.Agrees (empty.changeAll history) ∧
        tracker.origins = ⟨[1, 0, 0], 1⟩ ∧ tracker.terminals = ⟨[1, 0, 0, 0, 0], 1⟩ ∧
        ∃ after, tracker.Follows (empty.changeAll history) (.resolve 0 0) after := by
  intro named history
  have small : ∀ past ∈ history.inits, (empty.changeAll past).size < UInt32.size := by decide +kernel
  have fits : Tracker.Fits history := fun past isStart => small past ((List.mem_inits past history).mpr isStart)
  have few : ((empty.changeAll history).change (.resolve 0 0)).2.size < UInt32.size := by decide +kernel
  obtain ⟨tracker, reached, -, agrees, follows⟩ := (refines_edge_list history).2.2 fits
  have computed : Tracker.empty.changeAll? history = some
      ⟨[.straight 0 (named 7) .merge], ⟨[1, 0, 0], 1⟩, ⟨[1, 0, 0, 0, 0], 1⟩⟩ := by decide +kernel
  obtain rfl := Option.some.inj (computed.symm.trans reached)
  exact ⟨fits, few, _, computed, agrees, rfl, rfl, follows (.resolve 0 0) few⟩

end CommitLanes.Lane
