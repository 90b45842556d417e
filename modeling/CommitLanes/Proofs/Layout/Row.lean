import CommitLanes.Proofs.Lane.Tally

/-! A row read by its edges: which of them end at the node, and how far out they reach. -/

set_option autoImplicit false

namespace CommitLanes.Layout.Row

variable {row : Row} {edge : Edge}

theorem mem_passing : edge ∈ row.passing ↔ edge ∈ row.edges ∧ edge.target ≠ row.node.id := by
  rw [passing, List.mem_filter, decide_eq_true_iff]

theorem mem_incoming : edge ∈ row.incoming ↔ edge ∈ row.edges ∧ edge.target = row.node.id := by
  rw [incoming, List.mem_filter, decide_eq_true_iff]

theorem incoming_eq_nil_iff : row.incoming = [] ↔ ∀ edge ∈ row.edges, edge.target ≠ row.node.id := by
  simp only [incoming, List.filter_eq_nil_iff, decide_eq_true_iff]

theorem countAt_eq (row : Row) (lane : Lane) : row.countAt lane = (row.edges.map (·.origin)).count lane := by
  rw [List.count_eq_countP, List.countP_map, List.countP_eq_length_filter]
  rfl

theorem width_le_iff (row : Row) (columns : Nat) :
    row.width ≤ columns ↔ (∀ edge ∈ row.edges, edge.origin < columns ∧ edge.terminal < columns) ∧
      (∀ lane ∈ row.parentLanes, lane < columns) ∧ row.lane < columns := by
  simp only [width, Nat.max_le, Lane.span_le_iff, List.forall_mem_map, Nat.max_lt, and_assoc, Nat.succ_le_iff]

end CommitLanes.Layout.Row
