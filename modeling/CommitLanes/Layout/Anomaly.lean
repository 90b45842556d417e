import CommitLanes.ObjectId

/-! Histories that are not what they should be. None of it stops a layout. -/

set_option autoImplicit false

namespace CommitLanes.Layout

inductive Anomaly where
  /-- The repeat is laid out as a commit without edges. -/
  | duplicateCommit (commit : ObjectId)
  /-- The parent stands above its child, where no line can lead. -/
  | parentAlreadyLaidOut (commit parent : ObjectId)
  | duplicateParent (commit parent : ObjectId)
  deriving DecidableEq, Repr

def Anomaly.message : Anomaly → Text
  | .duplicateCommit commit => "commit ".toList ++ commit.short ++ " seen twice".toList
  | .parentAlreadyLaidOut commit parent =>
      "parent ".toList ++ parent.short ++ " of ".toList ++ commit.short ++
        " was laid out before it".toList
  | .duplicateParent commit parent =>
      commit.short ++ " lists parent ".toList ++ parent.short ++ " more than once".toList

end CommitLanes.Layout
