import CommitLanes.Lane.Gauge
import CommitLanes.Lane.Ledger

/-! The ledger over the tables that hold its counts.

It does and is asked what a ledger is, with the tables read and written place by place. Where a
place does not exist there is no result.
-/

set_option autoImplicit false

namespace CommitLanes.Lane

structure Tracker where
  edges : List Edge
  origins : Gauge
  terminals : Gauge
  deriving DecidableEq, Repr

namespace Tracker

open Ledger (Answer Change nthPlace?)

def empty : Tracker :=
  ⟨[], .empty, .empty⟩

section Questions

def size (tracker : Tracker) : Nat :=
  tracker.edges.length

def isEmpty (tracker : Tracker) : Bool :=
  tracker.edges.isEmpty

def originWidth (tracker : Tracker) : Nat :=
  tracker.origins.mark

def terminalWidth (tracker : Tracker) : Nat :=
  tracker.terminals.mark

def originsAt (tracker : Tracker) (lane : Lane) : Nat :=
  tracker.origins.count lane

def terminalsAt (tracker : Tracker) (lane : Lane) : Nat :=
  tracker.terminals.count lane

def isFree (tracker : Tracker) (lane : Lane) : Bool :=
  tracker.originsAt lane = 0 && tracker.terminalsAt lane = 0

def lowestFreeLane (tracker : Tracker) : Lane :=
  let width := max tracker.originWidth tracker.terminalWidth
  ((List.range width).find? tracker.isFree).getD width

def originating? (tracker : Tracker) (lane : Lane) (position : Nat) : Option Edge :=
  if position < tracker.originsAt lane then
    (nthPlace? (fun edge => edge.origin = lane) position tracker.edges).bind fun place =>
      tracker.edges[place]?
  else none

def terminatingPlace? (tracker : Tracker) (lane : Lane) (position : Nat) : Option Nat :=
  if position < tracker.terminalsAt lane then
    nthPlace? (fun edge => edge.terminal = lane) position tracker.edges
  else none

def terminating? (tracker : Tracker) (lane : Lane) (position : Nat) : Option Edge :=
  (tracker.terminatingPlace? lane position).bind fun place => tracker.edges[place]?

def targeting (tracker : Tracker) (target : ObjectId) : List Nat :=
  (List.range tracker.size).filter fun place =>
    (tracker.edges[place]?.map (·.target)) = some target

end Questions

section Changes

def add? (tracker : Tracker) (lane : Lane) (target : ObjectId) (kind : Edge.Kind) : Option (Nat × Tracker) := do
  let origins ← tracker.origins.bump? lane
  let terminals ← tracker.terminals.bump? lane
  return (tracker.size, ⟨tracker.edges ++ [Edge.straight lane target kind], origins, terminals⟩)

def drop? (tracker : Tracker) (origin terminal : Lane) : Option Tracker := do
  let origins ← tracker.origins.drop? origin
  let terminals ← tracker.terminals.drop? terminal
  return { tracker with origins, terminals }

def converge? (tracker : Tracker) (place : Nat) (lane : Lane) : Option Tracker :=
  match tracker.edges[place]? with
  | none => some tracker
  | some edge => do
      let left ← tracker.terminals.drop? edge.terminal
      let terminals ← left.bump? lane
      return { tracker with edges := tracker.edges.set place { edge with terminal := lane }, terminals }

def resolve? (tracker : Tracker) (lane : Lane) (position : Nat) : Option (Option Edge × Tracker) :=
  match tracker.terminatingPlace? lane position with
  | none => some (none, tracker)
  | some place => do
      let edge ← tracker.edges[place]?
      let left ← { tracker with edges := tracker.edges.eraseIdx place }.drop? edge.origin edge.terminal
      return (some edge, left)

/-- The tables are lowered edge by edge, and the marks with them. -/
def clear? (tracker : Tracker) (lane : Lane) : Option (Nat × Tracker) :=
  if tracker.originsAt lane = 0 then some (0, tracker)
  else do
    let removed := (tracker.edges.filter fun edge => edge.origin = lane).map (·.terminal)
    let kept := tracker.edges.filter fun edge => edge.origin ≠ lane
    let left ← removed.foldlM (fun tracker terminal => tracker.drop? lane terminal) { tracker with edges := kept }
    return (removed.length, left)

def drain (tracker : Tracker) : List Edge × Tracker :=
  (tracker.edges, empty)

def change? (tracker : Tracker) : Change → Option (Answer × Tracker)
  | .add lane target kind => (tracker.add? lane target kind).map (Prod.map .place id)
  | .converge place lane => (tracker.converge? place lane).map fun left => (.nothing, left)
  | .resolve lane position => (tracker.resolve? lane position).map (Prod.map .edge id)
  | .clear lane => (tracker.clear? lane).map (Prod.map .number id)
  | .drain => some (tracker.drain.map .edges id)

def changeAll? (tracker : Tracker) (history : List Change) : Option Tracker :=
  history.foldlM (fun tracker change => (tracker.change? change).map (·.2)) tracker

end Changes

end Tracker

end CommitLanes.Lane
