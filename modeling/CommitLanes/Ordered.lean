/-! Lists in order, without repeats. -/

set_option autoImplicit false

namespace CommitLanes.Ordered

variable {α : Type}

/-- Of equal elements that stand side by side only the last stays. -/
def distinct [DecidableEq α] : List α → List α
  | [] => []
  | [only] => [only]
  | first :: second :: rest =>
      if first = second then distinct (second :: rest) else first :: distinct (second :: rest)

/-- Stable, so what an order does not tell apart stays as it came. -/
def sort (order : α → α → Ordering) (items : List α) : List α :=
  items.mergeSort fun a b => (order a b).isLE

theorem mem_distinct [DecidableEq α] {a : α} (items : List α) : a ∈ distinct items ↔ a ∈ items := by
  fun_induction distinct items with
  | case1 => simp
  | case2 => simp
  | case3 first rest same => grind
  | case4 first second rest other ih => simp [ih]

theorem mem_sort {order : α → α → Ordering} {a : α} (items : List α) :
    a ∈ sort order items ↔ a ∈ items := by
  simp [sort, List.mem_mergeSort]

end CommitLanes.Ordered
