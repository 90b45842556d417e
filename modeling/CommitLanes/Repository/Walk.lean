import CommitLanes.Ordered
import CommitLanes.Repository.Reference
import CommitLanes.Repository.StoredCommit
import CommitLanes.Repository.StoredTag

/-! The history behind some commits, children before their parents, and among the commits
whose children have all come the latest first. -/

set_option autoImplicit false

namespace CommitLanes.Repository

def extent (repository : Repository) : Nat :=
  repository.files.files.length + 1

/-- The commit that an object is or that its tags lead to. Each must be of the kind that
the tag says and in order itself. -/
def peelFrom? (repository : Repository) : Nat → Option Object.Kind → ObjectId → Option ObjectId
  | 0, _, _ => none
  | fuel + 1, wanted, id => do
      let object ← repository.object? id
      if wanted.isSome && wanted ≠ some object.kind then none
      else match object.kind with
        | .commit => (StoredCommit.ofContent? object.content).map fun _ => id
        | .tag => do
            let tag ← StoredTag.ofContent? object.content
            repository.peelFrom? fuel (some tag.kind) tag.target
        | _ => none

def peel? (repository : Repository) (id : ObjectId) : Option ObjectId :=
  repository.peelFrom? repository.extent none id

def commitContent? (repository : Repository) (id : ObjectId) : Option Bytes :=
  ((repository.object? id).filter fun object => object.kind = .commit).map (·.content)

namespace Walk

structure Node where
  id : ObjectId
  parents : List ObjectId
  seconds : Int64
  deriving DecidableEq

def nodeAt? (repository : Repository) (id : ObjectId) : Option Node := do
  let outline ← StoredCommit.outline? (← repository.commitContent? id)
  some ⟨id, outline.parents, outline.seconds⟩

/-- All commits that can be reached from those that are pending; nothing if one of them
cannot be read. The fuel bounds the commits still to be met. -/
def reach (repository : Repository) (fuel : Nat) (pending : List ObjectId) (met : List Node) :
    Option (List Node) :=
  match pending with
  | [] => some met
  | id :: pending =>
      if met.any fun node => node.id = id then reach repository fuel pending met
      else match fuel with
        | 0 => none
        | fuel + 1 =>
            match nodeAt? repository id with
            | none => none
            | some node => reach repository fuel (node.parents ++ pending) (met ++ [node])
  termination_by (fuel, pending.length)

def isAwaited (remaining : List Node) (id : ObjectId) : Bool :=
  remaining.any fun node => node.parents.contains id

def takeLatest? : List Node → Option (Node × List Node)
  | [] => none
  | node :: rest =>
      match takeLatest? rest with
      | none => some (node, [])
      | some (latest, others) =>
          if node.seconds < latest.seconds then some (latest, node :: others)
          else some (node, rest)

/-- Gives ready commits, the latest first. A waiting commit gets ready when the last of
its children is given. -/
def order : Nat → List Node → List Node → List ObjectId
  | 0, _, _ => []
  | count + 1, ready, waiting =>
      match takeLatest? ready with
      | none => []
      | some (node, ready) =>
          -- Only parents of what is given just now can get ready.
        let remaining := ready ++ waiting
          let (freed, waiting) := waiting.partition fun other =>
            node.parents.contains other.id && !isAwaited remaining other.id
          node.id :: order count (ready ++ freed) waiting

def from? (repository : Repository) (tips : List ObjectId) : Option (List ObjectId) := do
  let nodes ← reach repository repository.extent tips []
  let (waiting, ready) := nodes.partition fun node => isAwaited nodes node.id
  some (order nodes.length ready waiting)

end Walk

/-- The commits at the head and at all branches; nothing if one of these names something
else. -/
def tips (repository : Repository) : OptionT Visit (List ObjectId) := do
  let head ←
    if (← OptionT.lift repository.head.run).isSome then
      -- The head is looked up once more, through all the names it stands for.
      pure [← (repository.peel? (← repository.resolve headName)).getM]
    else pure []
  let references ← repository.references
  let branches := directIn references branchDirectory ++ directIn references remoteDirectory
  return head ++ (← (branches.mapM fun branch => repository.peel? branch.2).getM)

end CommitLanes.Repository
