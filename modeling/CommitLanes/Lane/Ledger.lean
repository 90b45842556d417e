import CommitLanes.Lane.Tally

/-! The open edges, in the order they were opened.

Beside the edges the ledger keeps two tallies, one by the lane on which an edge enters
and one by the lane on which it leaves. They are brought up to date with every change,
so a question about a lane does not go through the edges.
-/

set_option autoImplicit false

namespace CommitLanes.Lane

structure Ledger where
  edges : List Edge
  origins : Tally
  terminals : Tally
  deriving DecidableEq, Repr

namespace Ledger

def empty : Ledger :=
  ⟨[], .empty, .empty⟩

def size (ledger : Ledger) : Nat :=
  ledger.edges.length

def isEmpty (ledger : Ledger) : Bool :=
  ledger.edges.isEmpty

def originWidth (ledger : Ledger) : Nat :=
  ledger.origins.width

def terminalWidth (ledger : Ledger) : Nat :=
  ledger.terminals.width

def originsAt (ledger : Ledger) (lane : Lane) : Nat :=
  ledger.origins.count lane

def terminalsAt (ledger : Ledger) (lane : Lane) : Nat :=
  ledger.terminals.count lane

def isFree (ledger : Ledger) (lane : Lane) : Bool :=
  ledger.originsAt lane = 0 && ledger.terminalsAt lane = 0

/-- Where the lanes in use have no gap, this is the one behind them. -/
def lowestFreeLane (ledger : Ledger) : Lane :=
  let width := max ledger.originWidth ledger.terminalWidth
  ((List.range width).find? ledger.isFree).getD width

def add (ledger : Ledger) (lane : Lane) (target : ObjectId) (kind : Edge.Kind) : Nat × Ledger :=
  (ledger.size,
    { edges := ledger.edges ++ [Edge.straight lane target kind]
      origins := ledger.origins.add lane
      terminals := ledger.terminals.add lane })

def nthPlace? (test : Edge → Bool) : Nat → List Edge → Option Nat
  | _, [] => none
  | position, edge :: rest =>
      if test edge then
        match position with
        | 0 => some 0
        | position + 1 => (nthPlace? test position rest).map (· + 1)
      else (nthPlace? test position rest).map (· + 1)

def originating? (ledger : Ledger) (lane : Lane) (position : Nat) : Option Edge :=
  if position < ledger.originsAt lane then
    (nthPlace? (fun edge => edge.origin = lane) position ledger.edges).bind fun place =>
      ledger.edges[place]?
  else none

def terminatingPlace? (ledger : Ledger) (lane : Lane) (position : Nat) : Option Nat :=
  if position < ledger.terminalsAt lane then
    nthPlace? (fun edge => edge.terminal = lane) position ledger.edges
  else none

def terminating? (ledger : Ledger) (lane : Lane) (position : Nat) : Option Edge :=
  (ledger.terminatingPlace? lane position).bind fun place => ledger.edges[place]?

def targeting (ledger : Ledger) (target : ObjectId) : List Nat :=
  (List.range ledger.size).filter fun place =>
    (ledger.edges[place]?.map (·.target)) = some target

def eraseAt (ledger : Ledger) (place : Nat) : Ledger :=
  match ledger.edges[place]? with
  | none => ledger
  | some edge =>
      { edges := ledger.edges.eraseIdx place
        origins := ledger.origins.remove edge.origin
        terminals := ledger.terminals.remove edge.terminal }

def resolve (ledger : Ledger) (lane : Lane) (position : Nat) : Option Edge × Ledger :=
  match ledger.terminatingPlace? lane position with
  | none => (none, ledger)
  | some place => (ledger.edges[place]?, ledger.eraseAt place)

def converge (ledger : Ledger) (place : Nat) (lane : Lane) : Ledger :=
  match ledger.edges[place]? with
  | none => ledger
  | some edge =>
      { ledger with
        edges := ledger.edges.set place { edge with terminal := lane }
        terminals := (ledger.terminals.remove edge.terminal).add lane }

def clear (ledger : Ledger) (lane : Lane) : Nat × Ledger :=
  if ledger.originsAt lane = 0 then (0, ledger)
  else
    let closed := ledger.edges.filter fun edge => edge.origin = lane
    (closed.length,
      { edges := ledger.edges.filter fun edge => edge.origin ≠ lane
        origins := closed.foldl (fun tally _ => tally.remove lane) ledger.origins
        terminals := closed.foldl (fun tally edge => tally.remove edge.terminal) ledger.terminals })

def drain (ledger : Ledger) : List Edge × Ledger :=
  (ledger.edges, empty)

inductive Change where
  | add (lane : Lane) (target : ObjectId) (kind : Edge.Kind)
  | converge (place : Nat) (lane : Lane)
  | resolve (lane : Lane) (position : Nat)
  | clear (lane : Lane)
  | drain

inductive Answer where
  | nothing
  | place (place : Nat)
  | edge (closed : Option Edge)
  | number (closed : Nat)
  | edges (closed : List Edge)

def change (ledger : Ledger) : Change → Answer × Ledger
  | .add lane target kind => ((ledger.add lane target kind).map .place id)
  | .converge place lane => (.nothing, ledger.converge place lane)
  | .resolve lane position => (ledger.resolve lane position).map .edge id
  | .clear lane => (ledger.clear lane).map .number id
  | .drain => ledger.drain.map .edges id

def changeAll (ledger : Ledger) (history : List Change) : Ledger :=
  history.foldl (fun ledger change => (ledger.change change).2) ledger

theorem nthPlace?_lt {test : Edge → Bool} {position place : Nat} {edges : List Edge}
    (found : nthPlace? test position edges = some place) : place < edges.length := by
  induction edges generalizing position place with
  | nil => simp [nthPlace?] at found
  | cons edge rest ih =>
      simp only [nthPlace?] at found
      split at found
      · cases position with
        | zero =>
            cases found
            simp
        | succ position =>
            obtain ⟨inner, there, rfl⟩ := Option.map_eq_some_iff.mp found
            simpa using ih there
      · obtain ⟨inner, there, rfl⟩ := Option.map_eq_some_iff.mp found
        simpa using ih there

theorem le_of_nthPlace? {test : Edge → Bool} {position place : Nat} {edges : List Edge}
    (found : nthPlace? test position edges = some place) : position ≤ place := by
  induction edges generalizing position place with
  | nil => simp [nthPlace?] at found
  | cons edge rest ih =>
      simp only [nthPlace?] at found
      split at found
      · cases position with
        | zero => exact Nat.zero_le _
        | succ position =>
            obtain ⟨inner, there, rfl⟩ := Option.map_eq_some_iff.mp found
            exact Nat.succ_le_succ (ih there)
      · obtain ⟨inner, there, rfl⟩ := Option.map_eq_some_iff.mp found
        exact Nat.le_succ_of_le (ih there)

theorem terminatingPlace?_lt {ledger : Ledger} {lane : Lane} {position place : Nat}
    (found : ledger.terminatingPlace? lane position = some place) : place < ledger.size := by
  unfold terminatingPlace? at found
  split at found
  · exact nthPlace?_lt found
  · cases found

theorem position_lt {ledger : Ledger} {lane : Lane} {position place : Nat}
    (found : ledger.terminatingPlace? lane position = some place) : position < ledger.size := by
  have bound := terminatingPlace?_lt found
  unfold terminatingPlace? at found
  split at found
  · exact Nat.lt_of_le_of_lt (le_of_nthPlace? found) bound
  · cases found

theorem size_eraseAt {ledger : Ledger} {place : Nat} (inside : place < ledger.size) :
    (ledger.eraseAt place).size + 1 = ledger.size := by
  have inside : place < ledger.edges.length := inside
  simp only [eraseAt, List.getElem?_eq_getElem inside, size, List.length_eraseIdx, inside, if_true]
  omega

/-- Closes the edges that leave on the lane and lead to `target`, from the position on.
An edge to another commit stays, and the next one is looked at. -/
def closeFrom (ledger : Ledger) (lane : Lane) (target : ObjectId) (position : Nat) : Ledger :=
  match _ : ledger.terminatingPlace? lane position with
  | none => ledger
  | some place =>
      if (ledger.edges[place]?.map (·.target)) = some target then
        closeFrom (ledger.eraseAt place) lane target position
      else closeFrom ledger lane target (position + 1)
  termination_by ledger.size - position
  decreasing_by
    · have inside := position_lt (by assumption)
      have := size_eraseAt (terminatingPlace?_lt (by assumption))
      omega
    · have inside := position_lt (by assumption)
      omega

def closeAt (ledger : Ledger) (lane : Lane) (target : ObjectId) : Ledger :=
  ledger.closeFrom lane target 0

end Ledger

end CommitLanes.Lane
