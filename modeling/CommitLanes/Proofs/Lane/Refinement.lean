import CommitLanes.Proofs.Lane.Arrival

/-! The ledger is its list of edges.

Whatever is done to a ledger is done to the plain list, and whatever it is asked is what a walk
through the list would find. The tallies only spare the walk: no entry is ever taken back
from a lane that has none, so a count never stops at zero where it should have gone below.
-/

set_option autoImplicit false

namespace CommitLanes.Lane

namespace Tally

/-- Takes entries back one after another, as long as each of them is there. -/
def takeBack : Tally → List Lane → Option Tally
  | tally, [] => some tally
  | tally, lane :: rest => if tally.count lane = 0 then none else (tally.remove lane).takeBack rest

/-- The entries that a change takes back, and those it makes afterwards. -/
structure Turnover where
  gone : List Lane
  made : List Lane

def turn (tally : Tally) (turnover : Turnover) : Option Tally :=
  (tally.takeBack turnover.gone).map fun left => turnover.made.foldl add left

theorem takeBack_of_perm {lanes gone kept : List Lane} (perm : lanes.Perm (gone ++ kept)) :
    (ofLanes lanes).takeBack gone = some (ofLanes kept) := by
  induction gone generalizing lanes with
  | nil => exact congrArg some (ofLanes_perm perm)
  | cons lane gone ih =>
      have member : lane ∈ lanes := perm.symm.subset (List.mem_cons_self ..)
      have counted : (ofLanes lanes).count lane ≠ 0 := by
        rw [count_ofLanes]
        exact Nat.ne_of_gt (List.count_pos_iff.mpr member)
      rw [takeBack, if_neg counted, remove_of_perm perm]
      exact ih (List.Perm.refl _)

theorem foldl_add_ofLanes (made kept : List Lane) :
    made.foldl add (ofLanes kept) = ofLanes (made ++ kept) := by
  induction made generalizing kept with
  | nil => rfl
  | cons lane made ih =>
      rw [List.foldl_cons, add_ofLanes, ih]
      exact ofLanes_perm List.perm_middle

/-- The lanes that stay are the same before and after. -/
theorem turn_of_perm {before after kept : List Lane} {turnover : Turnover}
    (leaves : before.Perm (turnover.gone ++ kept)) (enters : after.Perm (turnover.made ++ kept)) :
    (ofLanes before).turn turnover = some (ofLanes after) := by
  rw [turn, takeBack_of_perm leaves, Option.map_some, foldl_add_ofLanes, ofLanes_perm enters]

end Tally

/-- One past the highest of the lanes; zero if there is none. -/
structure IsSpan (lanes : List Lane) (width : Nat) : Prop where
  inside : ∀ lane ∈ lanes, lane < width
  reached : width = 0 ∨ ∃ lane ∈ lanes, lane + 1 = width

namespace Ledger

/-- What a change makes of a plain list of edges, and what is to be given back. An edge that
is closed or led elsewhere is told from its like by the edges in front of it. -/
inductive Step : List Edge → Change → Answer → List Edge → Prop where
  | add (edges : List Edge) (lane : Lane) (target : ObjectId) (kind : Edge.Kind) :
      Step edges (.add lane target kind) (.place edges.length) (edges ++ [.straight lane target kind])
  | converge (front : List Edge) (edge : Edge) (back : List Edge) (lane : Lane) :
      Step (front ++ edge :: back) (.converge front.length lane) .nothing
        (front ++ { edge with terminal := lane } :: back)
  | convergeNone {edges : List Edge} {place : Nat} (outside : edges.length ≤ place) (lane : Lane) :
      Step edges (.converge place lane) .nothing edges
  | resolve (front : List Edge) (edge : Edge) (back : List Edge) :
      Step (front ++ edge :: back)
        (.resolve edge.terminal (front.countP fun other => other.terminal = edge.terminal))
        (.edge (some edge)) (front ++ back)
  | resolveNone {edges : List Edge} {lane : Lane} {position : Nat}
      (few : edges.countP (fun edge => edge.terminal = lane) ≤ position) :
      Step edges (.resolve lane position) (.edge none) edges
  | clear (edges : List Edge) (lane : Lane) :
      Step edges (.clear lane) (.number (edges.countP fun edge => edge.origin = lane))
        (edges.filter fun edge => edge.origin ≠ lane)
  | drain (edges : List Edge) : Step edges .drain (.edges edges) []

/-- Every question is answered as by a walk through the edges. -/
structure Faithful (ledger : Ledger) : Prop where
  size : ledger.size = ledger.edges.length
  isEmpty : ledger.isEmpty = true ↔ ledger.edges = []
  originsAt : ∀ lane, ledger.originsAt lane = ledger.edges.countP fun edge => edge.origin = lane
  terminalsAt : ∀ lane, ledger.terminalsAt lane = ledger.edges.countP fun edge => edge.terminal = lane
  originWidth : IsSpan (ledger.edges.map (·.origin)) ledger.originWidth
  terminalWidth : IsSpan (ledger.edges.map (·.terminal)) ledger.terminalWidth
  trimmed : Tally.Trimmed ledger.origins.counts ∧ Tally.Trimmed ledger.terminals.counts
  originating : ∀ lane position, ledger.originating? lane position =
    (ledger.edges.filter fun edge => edge.origin = lane)[position]?
  originating_none : ∀ lane position, ledger.originating? lane position = none ↔
    ledger.edges.countP (fun edge => edge.origin = lane) ≤ position
  terminating : ∀ lane position, ledger.terminating? lane position =
    (ledger.edges.filter fun edge => edge.terminal = lane)[position]?
  terminating_none : ∀ lane position, ledger.terminating? lane position = none ↔
    ledger.edges.countP (fun edge => edge.terminal = lane) ≤ position
  isFree : ∀ lane, ledger.isFree lane = true ↔
    ∀ edge ∈ ledger.edges, edge.origin ≠ lane ∧ edge.terminal ≠ lane
  lowestFreeLane :
    FirstFree (ledger.edges.map (·.origin) ++ ledger.edges.map (·.terminal)) ledger.lowestFreeLane
  targeting : ∀ target place, place ∈ ledger.targeting target ↔
    ∃ edge, ledger.edges[place]? = some edge ∧ edge.target = target
  targeting_sorted : ∀ target, (ledger.targeting target).Pairwise (· < ·)

namespace Change

def origins (edges : List Edge) : Change → Tally.Turnover
  | .add lane _ _ => ⟨[], [lane]⟩
  | .converge _ _ => ⟨[], []⟩
  | .resolve lane position =>
      ⟨(edges.filter fun edge => edge.terminal = lane)[position]?.toList.map (·.origin), []⟩
  | .clear lane => ⟨(edges.filter fun edge => edge.origin = lane).map (·.origin), []⟩
  | .drain => ⟨edges.map (·.origin), []⟩

/-- Those of the second. An edge that is led elsewhere leaves one lane and enters another. -/
def terminals (edges : List Edge) : Change → Tally.Turnover
  | .add lane _ _ => ⟨[], [lane]⟩
  | .converge place lane =>
      ⟨edges[place]?.toList.map (·.terminal), edges[place]?.toList.map fun _ => lane⟩
  | .resolve lane position =>
      ⟨(edges.filter fun edge => edge.terminal = lane)[position]?.toList.map (·.terminal), []⟩
  | .clear lane => ⟨(edges.filter fun edge => edge.origin = lane).map (·.terminal), []⟩
  | .drain => ⟨edges.map (·.terminal), []⟩

end Change

section Lookups

variable {test : Edge → Bool} {position : Nat} {edges : List Edge}

theorem exists_nth (many : position < edges.countP test) :
    ∃ front edge back, edges = front ++ edge :: back ∧ test edge = true ∧ front.countP test = position := by
  induction edges generalizing position with
  | nil => simp at many
  | cons first rest ih =>
      by_cases passes : test first = true
      · cases position with
        | zero => exact ⟨[], first, rest, rfl, passes, rfl⟩
        | succ position =>
            rw [List.countP_cons_of_pos passes] at many
            obtain ⟨front, edge, back, rfl, found, counted⟩ := ih (Nat.lt_of_succ_lt_succ many)
            exact ⟨first :: front, edge, back, rfl, found, by rw [List.countP_cons_of_pos passes, counted]⟩
      · rw [List.countP_cons_of_neg passes] at many
        obtain ⟨front, edge, back, rfl, found, counted⟩ := ih many
        exact ⟨first :: front, edge, back, rfl, found, by rw [List.countP_cons_of_neg passes, counted]⟩

theorem getElem?_filter_split {edge : Edge} (passes : test edge = true) (front back : List Edge) :
    ((front ++ edge :: back).filter test)[front.countP test]? = some edge := by
  rw [List.filter_append, List.filter_cons_of_pos passes, List.countP_eq_length_filter,
    List.getElem?_append_right (Nat.le_refl _)]
  simp

theorem getElem?_filter_eq_none_iff : (edges.filter test)[position]? = none ↔ edges.countP test ≤ position := by
  rw [List.getElem?_eq_none_iff, List.countP_eq_length_filter]

theorem getElem?_nthPlace? (test : Edge → Bool) (position : Nat) (edges : List Edge) :
    ((nthPlace? test position edges).bind fun place => edges[place]?) = (edges.filter test)[position]? := by
  by_cases many : position < edges.countP test
  · obtain ⟨front, edge, back, rfl, passes, rfl⟩ := exists_nth many
    rw [nthPlace?_split passes, getElem?_filter_split passes]
    simp
  · -- The walk ends before it has met so many.
    rw [nthPlace?_eq_none (Nat.le_of_not_lt many),
      getElem?_filter_eq_none_iff.mpr (Nat.le_of_not_lt many)]
    rfl

theorem originating?_ofEdges (edges : List Edge) (lane : Lane) (position : Nat) :
    (ofEdges edges).originating? lane position =
      (edges.filter fun edge => edge.origin = lane)[position]? := by
  unfold originating?
  split
  · exact getElem?_nthPlace? _ position edges
  next few =>
    rw [originsAt_ofEdges, List.count_eq_countP, List.countP_map] at few
    exact (getElem?_filter_eq_none_iff.mpr (Nat.le_of_not_lt few)).symm

theorem terminating?_ofEdges (edges : List Edge) (lane : Lane) (position : Nat) :
    (ofEdges edges).terminating? lane position =
      (edges.filter fun edge => edge.terminal = lane)[position]? := by
  rw [terminating?, terminatingPlace?_ofEdges]
  exact getElem?_nthPlace? _ position edges

theorem isSpan_span (lanes : List Lane) : IsSpan lanes (Layout.Row.span lanes) where
  inside _ member := lt_span member
  reached := by
    by_contra missed
    rw [not_or] at missed
    obtain ⟨wide, missed⟩ := missed
    -- Were no lane the last one, all would fit into one column less.
    have narrower : Layout.Row.span lanes ≤ Layout.Row.span lanes - 1 := by
      rw [span_le_iff]
      intro lane member
      have notLast : lane + 1 ≠ Layout.Row.span lanes := fun last => missed ⟨lane, member, last⟩
      exact Nat.lt_sub_of_add_lt (Nat.lt_of_le_of_ne (lt_span member) notLast)
    omega

theorem faithful_ofEdges (edges : List Edge) : (ofEdges edges).Faithful where
  size := rfl
  isEmpty := List.isEmpty_iff
  originsAt lane := by
    rw [originsAt_ofEdges, List.count_eq_countP, List.countP_map]
    rfl
  terminalsAt lane := by
    rw [terminalsAt_ofEdges, List.count_eq_countP, List.countP_map]
    rfl
  originWidth := by
    rw [originWidth_ofEdges]
    exact isSpan_span _
  terminalWidth := by
    rw [terminalWidth_ofEdges]
    exact isSpan_span _
  trimmed := ⟨Tally.trimmed_ofLanes _, Tally.trimmed_ofLanes _⟩
  originating := originating?_ofEdges edges
  originating_none lane position := by
    rw [originating?_ofEdges]
    exact getElem?_filter_eq_none_iff
  terminating := terminating?_ofEdges edges
  terminating_none lane position := by
    rw [terminating?_ofEdges]
    exact getElem?_filter_eq_none_iff
  isFree lane := by
    rw [isFree_ofEdges]
    simp only [List.mem_map, not_exists, not_and, edges_ofEdges]
    exact ⟨fun free edge member => ⟨free.1 edge member, free.2 edge member⟩,
      fun free => ⟨fun edge member => (free edge member).1, fun edge member => (free edge member).2⟩⟩
  lowestFreeLane := firstFree_ofEdges edges
  targeting target place := by
    rw [mem_targeting_ofEdges, Option.map_eq_some_iff]
    rfl
  targeting_sorted _ := List.pairwise_lt_range.filter _

end Lookups

section Changing

/-- A change of the ledger is that change of the list, and the entries it takes back are there. -/
structure Performs (edges : List Edge) (change : Change) (answer : Answer) (after : Ledger) : Prop where
  step : Step edges change answer after.edges
  recounted : after = ofEdges after.edges
  origins : (ofEdges edges).origins.turn (change.origins edges) = some after.origins
  terminals : (ofEdges edges).terminals.turn (change.terminals edges) = some after.terminals

theorem performs_of_perm {edges after : List Edge} {change : Change} {answer : Answer}
    (step : Step edges change answer after) (origins terminals : List Lane)
    (originsLeave : (edges.map (·.origin)).Perm ((change.origins edges).gone ++ origins))
    (originsEnter : (after.map (·.origin)).Perm ((change.origins edges).made ++ origins))
    (terminalsLeave : (edges.map (·.terminal)).Perm ((change.terminals edges).gone ++ terminals))
    (terminalsEnter : (after.map (·.terminal)).Perm ((change.terminals edges).made ++ terminals)) :
    Performs edges change answer (ofEdges after) where
  step := step
  recounted := rfl
  origins := Tally.turn_of_perm originsLeave originsEnter
  terminals := Tally.turn_of_perm terminalsLeave terminalsEnter

theorem performs_add (edges : List Edge) (lane : Lane) (target : ObjectId) (kind : Edge.Kind) :
    Performs edges (.add lane target kind) (.place edges.length)
      (ofEdges (edges ++ [.straight lane target kind])) := by
  apply performs_of_perm (.add edges lane target kind) (edges.map (·.origin)) (edges.map (·.terminal))
  · exact .refl _
  · rw [List.map_append]
    exact List.perm_append_comm
  · exact .refl _
  · rw [List.map_append]
    exact List.perm_append_comm

theorem performs_converge (edges : List Edge) (place : Nat) (lane : Lane) :
    Performs edges (.converge place lane) .nothing (ofEdges (edges.modify place (Edge.ledTo lane))) := by
  cases found : edges[place]? with
  | none =>
      have outside : edges.length ≤ place := List.getElem?_eq_none_iff.mp found
      rw [List.modify_eq_self outside]
      apply performs_of_perm (.convergeNone outside lane) (edges.map (·.origin)) (edges.map (·.terminal))
      all_goals simp [Change.origins, Change.terminals, found]
  | some edge =>
      obtain ⟨front, back, rfl, rfl⟩ := exists_split found
      have led : (front ++ edge :: back).modify front.length (Edge.ledTo lane) =
          front ++ edge.ledTo lane :: back := by
        simp [List.modify_eq_take_cons_drop]
      rw [led]
      apply performs_of_perm (.converge front edge back lane) ((front ++ edge :: back).map (·.origin))
        ((front ++ back).map (·.terminal))
      · exact .refl _
      · simp [Change.origins]
      · simp [Change.terminals]
      · simp [Change.terminals]

theorem performs_resolve (edges : List Edge) (lane : Lane) (position : Nat) :
    Performs edges (.resolve lane position) (.edge ((ofEdges edges).resolve lane position).1)
      ((ofEdges edges).resolve lane position).2 := by
  rw [resolve, terminatingPlace?_ofEdges]
  by_cases many : position < edges.countP fun edge => edge.terminal = lane
  · obtain ⟨front, edge, back, rfl, leaves, rfl⟩ := exists_nth many
    have found : ((front ++ edge :: back).filter fun edge => edge.terminal = lane)[
        front.countP fun edge => edge.terminal = lane]? = some edge := getElem?_filter_split leaves front back
    -- From here on the lane is that of the edge, and the position the number of its like before it.
    obtain rfl : edge.terminal = lane := of_decide_eq_true leaves
    have erased : (front ++ edge :: back).eraseIdx front.length = front ++ back := by
      simp [List.eraseIdx_append_of_length_le]
    rw [nthPlace?_split leaves]
    simp only [eraseAt_ofEdges, edges_ofEdges, erased]
    rw [show (front ++ edge :: back)[front.length]? = some edge by simp]
    apply performs_of_perm (.resolve front edge back) ((front ++ back).map (·.origin))
      ((front ++ back).map (·.terminal))
    · rw [Change.origins, found]
      simp
    · exact .refl _
    · rw [Change.terminals, found]
      simp
    · exact .refl _
  · have few := Nat.le_of_not_lt many
    rw [nthPlace?_eq_none few]
    have missing := getElem?_filter_eq_none_iff.mpr few
    apply performs_of_perm (.resolveNone few) (edges.map (·.origin)) (edges.map (·.terminal))
    all_goals simp [Change.origins, Change.terminals, missing]

theorem performs_clear (edges : List Edge) (lane : Lane) :
    Performs edges (.clear lane) (.number (edges.countP fun edge => edge.origin = lane))
      (ofEdges (edges.filter fun edge => edge.origin ≠ lane)) := by
  -- A tally knows no order, so the closed edges may be thought of as standing in front.
  have parts : edges.Perm (edges.filter (fun edge => edge.origin = lane) ++
      edges.filter fun edge => edge.origin ≠ lane) := by
    simpa using (List.filter_append_perm (fun edge => decide (edge.origin = lane)) edges).symm
  apply performs_of_perm (.clear edges lane) ((edges.filter fun edge => edge.origin ≠ lane).map (·.origin))
    ((edges.filter fun edge => edge.origin ≠ lane).map (·.terminal))
  · rw [Change.origins, ← List.map_append]
    exact parts.map _
  · exact .refl _
  · rw [Change.terminals, ← List.map_append]
    exact parts.map _
  · exact .refl _

theorem performs_drain (edges : List Edge) : Performs edges .drain (.edges edges) (ofEdges []) := by
  apply performs_of_perm (.drain edges) [] []
  all_goals simp [Change.origins, Change.terminals]

theorem performs_change (edges : List Edge) (change : Change) :
    Performs edges change ((ofEdges edges).change change).1 ((ofEdges edges).change change).2 := by
  cases change with
  | add lane target kind =>
      simp only [Ledger.change, add_ofEdges, Prod.map]
      exact performs_add edges lane target kind
  | converge place lane =>
      simp only [Ledger.change, converge_ofEdges]
      exact performs_converge edges place lane
  | resolve lane position => exact performs_resolve edges lane position
  | clear lane =>
      simp only [Ledger.change, clear_ofEdges, Prod.map, ← List.countP_eq_length_filter]
      exact performs_clear edges lane
  | drain => exact performs_drain edges

theorem changeAll_ofEdges (edges : List Edge) (history : List Change) :
    ∃ after, (ofEdges edges).changeAll history = ofEdges after := by
  induction history generalizing edges with
  | nil => exact ⟨edges, rfl⟩
  | cons change history ih =>
      rw [changeAll, List.foldl_cons, (performs_change edges change).recounted]
      exact ih _

end Changing

end Ledger

end CommitLanes.Lane
