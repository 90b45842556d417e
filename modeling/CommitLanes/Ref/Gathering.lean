import CommitLanes.Ref.Catalog
import Mathlib.Data.Finset.Basic
import Mathlib.Logic.Function.Basic

/-! How a catalog is made: one pass puts the refs into buckets by their targets, and each bucket is
arranged when all refs are in. -/

set_option autoImplicit false

namespace CommitLanes.Ref.Catalog

structure Gathering where
  known : Finset ObjectId
  bucket : ObjectId → List Ref
  head : Option ObjectId

def Gathering.put (gathering : Gathering) (ref : Ref) : Gathering where
  known := insert ref.target gathering.known
  bucket := Function.update gathering.bucket ref.target (gathering.bucket ref.target ++ [ref])
  head := if ref.isHead then some ref.target else gathering.head

def gather (refs : List Ref) : Gathering :=
  refs.foldl Gathering.put ⟨∅, fun _ => [], none⟩

/-- The buckets arranged one after the other, in the order in which they are visited. -/
def Gathering.catalog (gathering : Gathering) (visits : List ObjectId) : Catalog where
  groups := visits.map fun id => (id, arrange (gathering.bucket id))
  head := gathering.head

end CommitLanes.Ref.Catalog
