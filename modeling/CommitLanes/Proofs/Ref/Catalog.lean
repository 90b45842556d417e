import CommitLanes.Proofs.Ordered
import CommitLanes.Proofs.Text.Order
import CommitLanes.Ref.Gathering
import Mathlib.Data.Finset.Dedup
import Mathlib.Data.Finset.Card
import Mathlib.Data.List.Induction

/-! What a catalog of refs holds.

Only kind and name are compared when the refs of a target are arranged, and repeats are looked for
side by side. That is enough: refs of one target that agree in both are the same ref. So a catalog
tells which refs there are and nothing of how they came, except where there are several heads.
-/

set_option autoImplicit false

namespace CommitLanes

section Orders

theorem Ref.Kind.rank_inj {kind other : Ref.Kind} : kind.rank = other.rank ↔ kind = other := by
  cases kind <;> cases other <;> decide

instance : Std.LawfulEqCmp Text.order :=
  inferInstanceAs (Std.LawfulEqCmp (compare : Text → Text → Ordering))

theorem Ref.order_eq_lt_iff {a b : Ref} :
    a.order b = .lt ↔ a.kind.rank < b.kind.rank ∨ a.kind = b.kind ∧ compare a.name.utf8 b.name.utf8 = .lt := by
  rw [Ref.order, Ordering.then_eq_lt, Nat.compare_eq_lt, Nat.compare_eq_eq, Kind.rank_inj, Text.order_eq_compare_utf8]

theorem Ref.eq_of_order {a b : Ref} (equal : a.order b = .eq) (target : a.target = b.target) : a = b := by
  rw [Ref.order, Ordering.then_eq_eq, Nat.compare_eq_eq, Kind.rank_inj, Std.LawfulEqCmp.compare_eq_iff_eq] at equal
  cases a
  cases b
  simp_all

instance : Std.TransCmp Ref.order :=
  inferInstanceAs (Std.TransCmp (compareLex (compareOn fun ref : Ref => ref.kind.rank) (compareOn fun ref : Ref => ref.name)))

instance : Std.TransCmp ObjectId.order :=
  inferInstanceAs (Std.TransCmp (compareLex (compareOn ObjectId.padded) (compareOn fun id : ObjectId => id.bytes.length)))

theorem ObjectId.eq_of_order {a b : ObjectId} (equal : a.order b = .eq) : a = b := by
  rw [ObjectId.order, Ordering.then_eq_eq, Nat.compare_eq_eq] at equal
  obtain ⟨padded, length⟩ := equal
  have padded : a.padded = b.padded := Std.LawfulEqCmp.eq_of_compare padded
  have front : ∀ id : ObjectId, id.padded.take id.bytes.length = id.bytes := fun id => by simp [ObjectId.padded]
  have bytes : a.bytes = b.bytes := by rw [← front a, ← front b, padded, length]
  cases a
  cases b
  simp_all

end Orders

namespace Ref.Catalog

open Ordered (distinct sort Separates)

variable {refs others : List Ref} {ref : Ref} {id : ObjectId}

def pointingAt (refs : List Ref) (id : ObjectId) : List Ref :=
  refs.filter fun ref => ref.target = id

def lastHead (refs : List Ref) : Option ObjectId :=
  (refs.filter Ref.isHead).getLast?.map (·.target)

section Arranging

theorem mem_pointingAt : ref ∈ pointingAt refs id ↔ ref ∈ refs ∧ ref.target = id := by
  simp [pointingAt]

theorem pointingAt_eq_nil (none : id ∉ refs.map (·.target)) : pointingAt refs id = [] := by
  simpa [pointingAt] using none

theorem separates_pointingAt (refs : List Ref) (id : ObjectId) : Separates Ref.order (pointingAt refs id) := by
  intro a inside b within equal
  exact Ref.eq_of_order equal ((mem_pointingAt.mp inside).2.trans (mem_pointingAt.mp within).2.symm)

theorem separates_targets (ids : List ObjectId) : Separates ObjectId.order ids :=
  fun _ _ _ _ => ObjectId.eq_of_order

theorem mem_arrange : ref ∈ arrange refs ↔ ref ∈ refs := by
  rw [arrange, Ordered.mem_distinct, Ordered.mem_sort]

theorem arrange_nil : arrange [] = [] := by
  simp [arrange, Ordered.sort, distinct]

theorem pairwise_arrange (refs : List Ref) (id : ObjectId) :
    (arrange (pointingAt refs id)).Pairwise fun a b => a.order b = .lt :=
  Ordered.pairwise_distinct_sort (separates_pointingAt refs id)

theorem nodup_arrange (refs : List Ref) (id : ObjectId) : (arrange (pointingAt refs id)).Nodup :=
  Ordered.nodup_of_pairwise_lt (pairwise_arrange refs id)

end Arranging

section Gathering

/-- Made in one pass over the refs. The buckets come in any order, each of them once. -/
def Made (refs : List Ref) (catalog : Catalog) : Prop :=
  ∃ visits : List ObjectId, visits.Nodup ∧ visits.toFinset = (gather refs).known ∧ (gather refs).catalog visits = catalog

theorem pointingAt_concat (refs : List Ref) (ref : Ref) :
    pointingAt (refs ++ [ref]) = Function.update (pointingAt refs) ref.target (pointingAt refs ref.target ++ [ref]) := by
  funext id
  by_cases here : id = ref.target
  · simp [here, pointingAt]
  · simp [Function.update_of_ne here, pointingAt, Ne.symm here]

theorem lastHead_concat (refs : List Ref) (ref : Ref) :
    lastHead (refs ++ [ref]) = if ref.isHead then some ref.target else lastHead refs := by
  cases head : ref.isHead <;> simp [lastHead, List.filter_append, head]

theorem gather_eq (refs : List Ref) :
    gather refs = ⟨(refs.map (·.target)).toFinset, pointingAt refs, lastHead refs⟩ := by
  -- From the back, where a ref is put to the others of its target and the last head is replaced.
  induction refs using List.reverseRecOn with
  | nil => rfl
  | append_singleton refs ref ih =>
      have step : gather (refs ++ [ref]) = (gather refs).put ref := List.foldl_concat ..
      rw [step, ih, Gathering.put, pointingAt_concat, lastHead_concat, List.map_append, List.map_singleton,
        List.toFinset_append]
      congr 1
      exact (Finset.union_singleton ..).symm

theorem ofRefs_eq_catalog (refs : List Ref) :
    ofRefs refs = (gather refs).catalog (distinct (sort ObjectId.order (refs.map (·.target)))) := by
  rw [gather_eq, ofRefs, Gathering.catalog, lastHead, List.getLast?_eq_head?_reverse, ← List.filter_reverse,
    List.head?_filter]
  rfl

theorem made_ofRefs (refs : List Ref) : Made refs (ofRefs refs) := by
  refine ⟨_, ?_, ?_, (ofRefs_eq_catalog refs).symm⟩
  · exact Ordered.nodup_of_pairwise_lt (Ordered.pairwise_distinct_sort (separates_targets _))
  · rw [gather_eq]
    ext id
    rw [List.mem_toFinset, Ordered.mem_distinct, Ordered.mem_sort, List.mem_toFinset]

end Gathering

section Contents

structure Indexes (catalog : Catalog) (refs : List Ref) : Prop where
  mem_refsFor : ∀ (id : ObjectId) (ref : Ref), ref ∈ catalog.refsFor id ↔ ref ∈ refs ∧ ref.target = id
  once : ∀ id : ObjectId, (catalog.refsFor id).Nodup
  increasing : ∀ id : ObjectId, (catalog.refsFor id).Pairwise fun a b =>
    a.kind.rank < b.kind.rank ∨ a.kind = b.kind ∧ compare a.name.utf8 b.name.utf8 = .lt
  none : ∀ id : ObjectId, id ∉ refs.map (·.target) → catalog.refsFor id = []
  size : catalog.size = (refs.map (·.target)).toFinset.card
  visited : ∀ (id : ObjectId) (found : List Ref),
    (id, found) ∈ catalog.groups ↔ id ∈ refs.map (·.target) ∧ found = catalog.refsFor id
  visitedOnce : (catalog.groups.map (·.1)).Nodup
  together : catalog.toList.Perm refs.dedup
  head : catalog.head = lastHead refs

variable {catalog other : Catalog}

theorem Made.groups_eq (made : Made refs catalog) :
    ∃ visits : List ObjectId, visits.Nodup ∧ (∀ id, id ∈ visits ↔ id ∈ refs.map (·.target)) ∧
      catalog.groups = visits.map fun id => (id, arrange (pointingAt refs id)) := by
  obtain ⟨visits, once, known, rfl⟩ := made
  refine ⟨visits, once, fun id => ?_, by rw [gather_eq]; rfl⟩
  rw [← List.mem_toFinset, known, gather_eq, List.mem_toFinset]

theorem Made.refsFor_eq (made : Made refs catalog) (id : ObjectId) :
    catalog.refsFor id = arrange (pointingAt refs id) := by
  obtain ⟨visits, -, mem, groups⟩ := made.groups_eq
  have same : (fun group : ObjectId × List Ref => decide (group.1 = id)) ∘
      (fun id => (id, arrange (pointingAt refs id))) = fun visit => decide (visit = id) := rfl
  rw [refsFor, groups, List.find?_map, same]
  cases found : visits.find? fun visit => visit = id with
  | some visit =>
      have here : visit = id := by simpa using List.find?_some found
      rw [here]
      rfl
  | none =>
      have unknown : id ∉ visits := fun inside => by simpa using List.find?_eq_none.mp found id inside
      rw [pointingAt_eq_nil (mt (mem id).mpr unknown), arrange_nil]
      rfl

theorem Made.mem_refsFor (made : Made refs catalog) : ref ∈ catalog.refsFor id ↔ ref ∈ refs ∧ ref.target = id := by
  rw [made.refsFor_eq, mem_arrange, mem_pointingAt]

theorem Made.perm_toList (made : Made refs catalog) : catalog.toList.Perm refs.dedup := by
  obtain ⟨visits, once, mem, groups⟩ := made.groups_eq
  have all : catalog.toList = visits.flatMap fun id => arrange (pointingAt refs id) := by
    rw [toList, groups, List.flatMap_map]
  have mem_all : ∀ ref, ref ∈ catalog.toList ↔ ref ∈ refs := by
    intro ref
    rw [all, List.mem_flatMap]
    constructor
    · rintro ⟨id, -, inside⟩
      exact (mem_pointingAt.mp (mem_arrange.mp inside)).1
    · intro inside
      exact ⟨ref.target, (mem _).mpr (List.mem_map_of_mem inside), mem_arrange.mpr (mem_pointingAt.mpr ⟨inside, rfl⟩)⟩
  have nodup : catalog.toList.Nodup := by
    -- A ref has one target, so no two buckets have a ref in common.
    rw [all, List.nodup_flatMap]
    refine ⟨fun id _ => nodup_arrange refs id, once.imp fun {id visit} different ref here there => different ?_⟩
    rw [← (mem_pointingAt.mp (mem_arrange.mp here)).2, ← (mem_pointingAt.mp (mem_arrange.mp there)).2]
  apply (List.perm_ext_iff_of_nodup nodup (List.nodup_dedup _)).mpr
  intro ref
  rw [mem_all, List.mem_dedup]

theorem Made.head_eq (made : Made refs catalog) : catalog.head = lastHead refs := by
  obtain ⟨visits, -, -, rfl⟩ := made
  rw [gather_eq]
  rfl

theorem Made.indexes (made : Made refs catalog) : catalog.Indexes refs := by
  obtain ⟨visits, once, mem, groups⟩ := made.groups_eq
  have targets : visits.toFinset = (refs.map (·.target)).toFinset := by
    ext id
    rw [List.mem_toFinset, mem, List.mem_toFinset]
  exact {
    mem_refsFor := fun _ _ => made.mem_refsFor
    once := fun id => made.refsFor_eq id ▸ nodup_arrange refs id
    increasing := fun id => made.refsFor_eq id ▸ (pairwise_arrange refs id).imp Ref.order_eq_lt_iff.mp
    none := fun id unknown => by rw [made.refsFor_eq, pointingAt_eq_nil unknown, arrange_nil]
    size := by rw [size, groups, List.length_map, ← targets, List.toFinset_card_of_nodup once]
    visited := fun id found => by
      rw [made.refsFor_eq, groups, ← mem, List.mem_map]
      constructor
      · rintro ⟨visit, inside, same⟩
        obtain ⟨rfl, rfl⟩ := Prod.mk.inj same
        exact ⟨inside, rfl⟩
      · rintro ⟨inside, rfl⟩
        exact ⟨id, inside, rfl⟩
    visitedOnce := by
      rw [groups, List.map_map]
      exact (List.map_id visits).symm ▸ once
    together := made.perm_toList
    head := made.head_eq }

theorem Indexes.refsFor_eq (indexes : catalog.Indexes refs) {found : List Ref}
    (rising : found.Pairwise fun a b => a.order b = .lt) (sound : ∀ ref ∈ found, ref ∈ refs ∧ ref.target = id)
    (complete : ∀ ref ∈ refs, ref.target = id → ref ∈ found) : catalog.refsFor id = found := by
  have increasing : (catalog.refsFor id).Pairwise fun a b => a.order b = .lt :=
    (indexes.increasing id).imp Ref.order_eq_lt_iff.mpr
  apply Ordered.eq_of_pairwise_lt increasing rising
  intro ref
  rw [indexes.mem_refsFor]
  exact ⟨fun here => complete ref here.1 here.2, sound ref⟩

theorem Indexes.agree (indexes : catalog.Indexes refs) (alike : other.Indexes others) (perm : refs.Perm others) :
    (∀ id, catalog.refsFor id = other.refsFor id) ∧ catalog.size = other.size ∧ catalog.groups.Perm other.groups := by
  have same : ∀ id, catalog.refsFor id = other.refsFor id := by
    intro id
    apply indexes.refsFor_eq ((alike.increasing id).imp Ref.order_eq_lt_iff.mpr)
    · intro ref here
      rw [perm.mem_iff]
      exact (alike.mem_refsFor id ref).mp here
    · exact fun ref inside here => (alike.mem_refsFor id ref).mpr ⟨perm.mem_iff.mp inside, here⟩
  have targets : (refs.map (·.target)).Perm (others.map (·.target)) := perm.map _
  refine ⟨same, ?_, ?_⟩
  · rw [indexes.size, alike.size, List.toFinset_eq_of_perm _ _ targets]
  · apply (List.perm_ext_iff_of_nodup indexes.visitedOnce.of_map alike.visitedOnce.of_map).mpr
    rintro ⟨id, found⟩
    rw [indexes.visited, alike.visited, targets.mem_iff, same]

theorem lastHead_perm (perm : refs.Perm others)
    (shared : ∀ a ∈ refs, ∀ b ∈ refs, a.isHead = true → b.isHead = true → a.target = b.target) :
    lastHead refs = lastHead others := by
  have heads : (refs.filter Ref.isHead).Perm (others.filter Ref.isHead) := perm.filter _
  unfold lastHead
  cases last : (refs.filter Ref.isHead).getLast? with
  | none =>
      rw [List.getLast?_eq_none_iff] at last
      rw [last, List.nil_perm] at heads
      rw [heads]
      rfl
  | some a =>
      cases final : (others.filter Ref.isHead).getLast? with
      | none =>
          rw [List.getLast?_eq_none_iff] at final
          rw [final, List.perm_nil] at heads
          rw [heads] at last
          cases last
      | some b =>
          have inside := List.mem_filter.mp (List.mem_of_getLast? last)
          have within := List.mem_filter.mp (heads.mem_iff.mpr (List.mem_of_getLast? final))
          exact congrArg some (shared a inside.1 b within.1 inside.2 within.2)

end Contents

/-- A catalog of refs has under each target the refs with this target, each of them once and in display
order, and nothing else. Neither the order in which the buckets are visited nor the order in which the
refs came can be told from it, but for the head where several refs claim to be it. -/
theorem indexes_refs_in_any_order (refs : List Ref) :
    Made refs (ofRefs refs) ∧
      (∀ catalog, Made refs catalog → catalog.Indexes refs) ∧
      ∀ others, refs.Perm others → ∀ catalog other, Made refs catalog → Made others other →
        (∀ id, catalog.refsFor id = other.refsFor id) ∧ catalog.size = other.size ∧ catalog.groups.Perm other.groups ∧
          ((∀ a ∈ refs, ∀ b ∈ refs, a.isHead = true → b.isHead = true → a.target = b.target) →
            catalog.head = other.head) := by
  refine ⟨made_ofRefs refs, fun catalog made => made.indexes, ?_⟩
  intro others perm catalog other made madeToo
  obtain ⟨refsFor, size, groups⟩ := made.indexes.agree madeToo.indexes perm
  refine ⟨refsFor, size, groups, fun shared => ?_⟩
  rw [made.head_eq, madeToo.head_eq, lastHead_perm perm shared]

/-- Five refs, one of them twice, and the same refs the other way round. -/
theorem indexes_refs_either_way :
    let first : ObjectId := ⟨List.replicate 20 1, by decide⟩
    let second : ObjectId := ⟨List.replicate 20 2, by decide⟩
    let tag : Ref := ⟨"v1".toList, first, .tag⟩
    let head : Ref := ⟨"HEAD".toList, first, .head⟩
    let main : Ref := ⟨"main".toList, first, .branch⟩
    let remote : Ref := ⟨"origin/main".toList, second, .remote⟩
    let refs := [tag, main, head, remote, main]
    refs.Perm refs.reverse ∧
      (ofRefs refs).refsFor first = [head, main, tag] ∧ (ofRefs refs.reverse).refsFor first = [head, main, tag] ∧
      (ofRefs refs).size = 2 ∧ (ofRefs refs.reverse).size = 2 ∧
      (ofRefs refs).head = some first ∧ (ofRefs refs.reverse).head = some first := by
  intro first second tag head main remote refs
  have perm : refs.Perm refs.reverse := refs.reverse_perm.symm
  obtain ⟨made, indexes, agree⟩ := indexes_refs_in_any_order refs
  obtain ⟨refsFor, size, -, shared⟩ := agree _ perm _ _ made (made_ofRefs _)
  have together : (ofRefs refs).refsFor first = [head, main, tag] := by
    refine (indexes _ made).refsFor_eq ?_ ?_ ?_ <;> decide
  have two : (ofRefs refs).size = 2 := (indexes _ made).size.trans (by decide)
  have leads : (ofRefs refs).head = some first := (indexes _ made).head.trans (by decide)
  have one : (ofRefs refs).head = (ofRefs refs.reverse).head := shared (by decide)
  exact ⟨perm, together, (refsFor first).symm.trans together, two, size.symm.trans two, leads, one.symm.trans leads⟩

end Ref.Catalog

end CommitLanes
