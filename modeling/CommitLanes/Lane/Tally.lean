import CommitLanes.Lane.Edge

/-! How many edges each lane has.

The counts stop at the last lane that has an edge, so their number is the width that the
edges take and needs no search.
-/

set_option autoImplicit false

namespace CommitLanes.Lane

structure Tally where
  counts : List Nat
  deriving DecidableEq, Repr

namespace Tally

def empty : Tally :=
  ⟨[]⟩

def count (tally : Tally) (lane : Lane) : Nat :=
  tally.counts[lane]?.getD 0

def width (tally : Tally) : Nat :=
  tally.counts.length

def increase : List Nat → Lane → List Nat
  | [], 0 => [1]
  | [], lane + 1 => 0 :: increase [] lane
  | count :: rest, 0 => (count + 1) :: rest
  | count :: rest, lane + 1 => count :: increase rest lane

/-- The counts with `count` in front; nothing stands behind the last lane in use. -/
def trimmed (count : Nat) (rest : List Nat) : List Nat :=
  if count = 0 ∧ rest = [] then [] else count :: rest

def decrease : List Nat → Lane → List Nat
  | [], _ => []
  | count :: rest, 0 => trimmed (count - 1) rest
  | count :: rest, lane + 1 => trimmed count (decrease rest lane)

def add (tally : Tally) (lane : Lane) : Tally :=
  ⟨increase tally.counts lane⟩

def remove (tally : Tally) (lane : Lane) : Tally :=
  ⟨decrease tally.counts lane⟩

theorem getElem?_increase (counts : List Nat) (lane other : Lane) :
    (increase counts lane)[other]?.getD 0 = counts[other]?.getD 0 + if other = lane then 1 else 0 := by
  fun_induction increase counts lane generalizing other <;> cases other <;> simp_all

theorem getElem?_trimmed (count : Nat) (rest : List Nat) (lane : Lane) :
    (trimmed count rest)[lane]?.getD 0 = (count :: rest)[lane]?.getD 0 := by
  unfold trimmed
  split
  next empty =>
    obtain ⟨rfl, rfl⟩ := empty
    cases lane <;> simp
  next => rfl

theorem getElem?_decrease (counts : List Nat) (lane other : Lane) :
    (decrease counts lane)[other]?.getD 0 = counts[other]?.getD 0 - if other = lane then 1 else 0 := by
  fun_induction decrease counts lane generalizing other with
  | case1 => simp
  | case2 count rest =>
      rw [getElem?_trimmed]
      cases other <;> simp
  | case3 count rest lane ih =>
      rw [getElem?_trimmed]
      cases other with
      | zero => simp
      | succ other => simpa using ih other

theorem count_add (tally : Tally) (lane other : Lane) :
    (tally.add lane).count other = tally.count other + if other = lane then 1 else 0 :=
  getElem?_increase tally.counts lane other

theorem count_remove (tally : Tally) (lane other : Lane) :
    (tally.remove lane).count other = tally.count other - if other = lane then 1 else 0 :=
  getElem?_decrease tally.counts lane other

end Tally

end CommitLanes.Lane
