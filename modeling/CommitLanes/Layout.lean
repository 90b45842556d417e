import CommitLanes.Lane.Ledger
import CommitLanes.Layout.Anomaly
import CommitLanes.Layout.Row

/-! Commits laid out in lanes, one at a time, children before their parents.

A layout remembers the open edges and the ids it has laid out, never the graph. The ids
serve to notice repeats and parents that come too early; with a window only the latest
ones are kept, and what is older goes unnoticed.
-/

set_option autoImplicit false

namespace CommitLanes

structure Layout where
  ledger : Lane.Ledger
  /-- Ids laid out, the latest first. -/
  seen : List ObjectId
  /-- How many ids are kept; all of them without a limit. -/
  window : Option Nat
  rows : Nat
  anomalies : List Layout.Anomaly
  maxWidth : Nat

namespace Layout

def start (window : Option Nat) : Layout :=
  ⟨.empty, [], window, 0, [], 0⟩

def remember (window : Option Nat) (id : ObjectId) (seen : List ObjectId) : List ObjectId :=
  match window with
  | none => id :: seen
  | some size => (id :: seen).take size

structure Opening where
  ledger : Lane.Ledger
  parentLanes : List Lane
  registered : List ObjectId
  anomalies : List Anomaly

/-- The first parent that gets an edge continues on the node's lane, every other one
starts on the lowest lane that is free by then. -/
def Opening.parent (seen : List ObjectId) (commit : ObjectId) (lane : Lane) (opening : Opening)
    (parent : ObjectId) : Opening :=
  if parent ∈ seen then
    { opening with anomalies := opening.anomalies ++ [.parentAlreadyLaidOut commit parent] }
  else if parent ∈ opening.registered then
    { opening with anomalies := opening.anomalies ++ [.duplicateParent commit parent] }
  else
    let first := opening.parentLanes.isEmpty
    let place := if first then lane else opening.ledger.lowestFreeLane
    { ledger := (opening.ledger.add place parent (if first then .firstParent else .merge)).2
      parentLanes := opening.parentLanes ++ [place]
      registered := opening.registered ++ [parent]
      anomalies := opening.anomalies }

def openParents (ledger : Lane.Ledger) (seen : List ObjectId) (node : Commit) (lane : Lane) :
    Opening :=
  node.parents.foldl (Opening.parent seen node.id lane) ⟨ledger, [], [], []⟩

def laneFor (ledger : Lane.Ledger) (incoming : List Nat) : Lane :=
  ((incoming.filterMap fun place => ledger.edges[place]?.map (·.origin)).min?).getD
    ledger.lowestFreeLane

/-- A repeated commit changes nothing but the counts. -/
def pushDuplicate (layout : Layout) (node : Commit) : Row × Layout :=
  let row : Row := ⟨layout.rows, node, layout.ledger.lowestFreeLane, layout.ledger.edges, []⟩
  (row, { layout with
    rows := layout.rows + 1
    anomalies := layout.anomalies ++ [.duplicateCommit node.id]
    maxWidth := max layout.maxWidth row.width })

/-- The edges are taken down for the row after they were led to the node and before the
node's own are opened. -/
def pushNew (layout : Layout) (node : Commit) : Row × Layout :=
  let seen := remember layout.window node.id layout.seen
  let incoming := layout.ledger.targeting node.id
  let lane := laneFor layout.ledger incoming
  let converged := incoming.foldl (fun ledger place => ledger.converge place lane) layout.ledger
  let opening := openParents (converged.closeAt lane node.id) seen node lane
  let ledger :=
    if opening.parentLanes.isEmpty then (opening.ledger.clear lane).2 else opening.ledger
  let row : Row := ⟨layout.rows, node, lane, converged.edges, opening.parentLanes⟩
  (row,
    { ledger
      seen
      window := layout.window
      rows := layout.rows + 1
      anomalies := layout.anomalies ++ opening.anomalies
      maxWidth := max layout.maxWidth row.width })

def push (layout : Layout) (node : Commit) : Row × Layout :=
  if node.id ∈ layout.seen then layout.pushDuplicate node else layout.pushNew node

def pushAll (layout : Layout) : List Commit → List Row × Layout
  | [] => ([], layout)
  | node :: rest =>
      let (row, layout) := layout.push node
      let (rows, layout) := layout.pushAll rest
      (row :: rows, layout)

def finish (layout : Layout) : List Edge × Layout :=
  let (dangling, ledger) := layout.ledger.drain
  (dangling, { layout with ledger })

inductive Move where
  | push (node : Commit)
  | finish

def move (layout : Layout) : Move → Layout
  | .push node => (layout.push node).2
  | .finish => layout.finish.2

def after (window : Option Nat) (moves : List Move) : Layout :=
  moves.foldl move (start window)

end Layout

end CommitLanes
