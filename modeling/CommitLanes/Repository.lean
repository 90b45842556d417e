import CommitLanes.Ref
import CommitLanes.Repository.History

/-! The refs of a repository: its head, its branches and its tags. -/

set_option autoImplicit false

namespace CommitLanes.Repository

/-- A name that is no UTF-8 gives no ref. -/
def refOf? (kind : Ref.Kind) (name : Bytes) (target : ObjectId) : Option Ref :=
  (Utf8.decode? name).map fun name => ⟨name, target, kind⟩

def resolveAll (repository : Repository) : List Bytes → Visit (List (Bytes × ObjectId))
  | [] => return []
  | name :: rest => do
      match ← (repository.resolve name).run with
      | none => return []
      | some id => return (name, id) :: (← resolveAll repository rest)

/-- A tag counts as the commit that it leads to, or else as the object itself. -/
def tagOf? (repository : Repository) (name : Bytes) (id : ObjectId) : Option Ref :=
  (Bytes.after? (Bytes.ofString tagDirectory) name).bind fun short =>
    refOf? .tag short ((repository.peel? id).getD id)

/-- Branches that stand for other branches are left out. -/
def refs (repository : Repository) : Visit (Except Fault (List Ref)) := do
  let head ← repository.head.run
  match ← repository.references.run with
  | none => return .error .damaged
  | some references =>
      let names := (references.map (·.1)).filter fun name =>
        Bytes.startsWith name (Bytes.ofString tagDirectory)
      let tags ← repository.resolveAll names
      return .ok ((head.bind (refOf? .head headName)).toList ++
        (directIn references branchDirectory).filterMap (fun (name, id) => refOf? .branch name id) ++
        (directIn references remoteDirectory).filterMap (fun (name, id) => refOf? .remote name id) ++
        tags.filterMap (fun (name, id) => repository.tagOf? name id))

end CommitLanes.Repository
