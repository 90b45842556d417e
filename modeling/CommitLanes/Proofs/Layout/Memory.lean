import CommitLanes.Layout.Memory
import CommitLanes.Proofs.Layout.Window
import Mathlib.Data.List.DropRight

/-! What a layout remembers.

A commit is accepted where no repeat of it is reported. What is remembered are the ids of the
commits accepted last, as many as the window has room for, also where an id was forgotten and
accepted again in the meantime. The same ids are remembered by a set that is asked beside a queue
that knows which of them to forget next, though the two are changed one after the other.
-/

set_option autoImplicit false

namespace CommitLanes.Layout

section Reports

variable {layout : Layout} {node : Commit} {known : List ObjectId} {commit parent : ObjectId}

def reports (layout : Layout) (node : Commit) : List Anomaly :=
  (layout.push node).2.anomalies.drop layout.anomalies.length

def Accepts (layout : Layout) (node : Commit) : Prop :=
  .duplicateCommit node.id ∉ layout.reports node

instance (layout : Layout) (node : Commit) : Decidable (layout.Accepts node) :=
  inferInstanceAs (Decidable (¬ _ ∈ _))

theorem reports_eq (layout : Layout) (node : Commit) :
    layout.reports node =
      if node.id ∈ layout.seen then [.duplicateCommit node.id]
      else objections (layout.push node).2.seen node.id node.parents := by
  rw [reports, anomalies_push, List.drop_left]

theorem notMem_objections (known parents : List ObjectId) (commit other : ObjectId) :
    .duplicateCommit other ∉ objections known commit parents := by
  intro member
  obtain ⟨listing, -, said⟩ := List.mem_filterMap.mp member
  unfold objection? at said
  split at said
  · cases said
  · split at said <;> cases said

theorem accepts_iff : layout.Accepts node ↔ node.id ∉ layout.seen := by
  rw [Accepts, reports_eq]
  split
  next repeated => simp [repeated]
  next new => simp [new, notMem_objections]

/-- It is reported of a parent whether it is known, at whichever of its listings. -/
theorem parentAlreadyLaidOut_mem_objections {parents : List ObjectId} (listed : parent ∈ parents) :
    .parentAlreadyLaidOut commit parent ∈ objections known commit parents ↔ parent ∈ known := by
  constructor
  · intro member
    obtain ⟨listing, -, said⟩ := List.mem_filterMap.mp member
    unfold objection? at said
    split at said
    next early =>
      cases said
      exact early
    next =>
      split at said <;> cases said
  · intro early
    rw [← map_snd_withEarlier parents] at listed
    obtain ⟨listing, here, rfl⟩ := List.mem_map.mp listed
    exact List.mem_filterMap.mpr ⟨listing, here, by simp [objection?, early]⟩

end Reports

section Latest

variable {window : Option Nat} {ids seen : List ObjectId}

/-- The last of the ids, as many as the window has room for. -/
def latest (window : Option Nat) (ids : List ObjectId) : List ObjectId :=
  match window with
  | none => ids
  | some size => ids.rtake size

theorem length_latest (window : Option Nat) (ids : List ObjectId) :
    (latest window ids).length = window.elim ids.length fun size => min size ids.length := by
  cases window with
  | none => rfl
  | some size =>
      simp only [latest, List.rtake, List.length_drop, Option.elim]
      omega

/-- An id that comes in takes the place of the oldest one, if it finds a place at all. -/
theorem reverse_remember (kept : seen.reverse = latest window ids) (id : ObjectId) :
    (remember window id seen).reverse = latest window (ids ++ [id]) := by
  cases window with
  | none =>
      rw [remember, List.reverse_cons, kept]
      rfl
  | some size =>
      cases size with
      | zero => simp [remember, latest]
      | succ size =>
          simp only [latest] at kept ⊢
          rw [List.rtake_concat_succ, remember, List.take_succ_cons, List.reverse_cons,
            ← List.reverse_reverse seen, kept]
          simp [List.rtake_eq_reverse_take_reverse, List.take_take]

end Latest

section Run

variable {layout : Layout} {ids : List ObjectId}

def accepted (layout : Layout) : List Move → List ObjectId
  | [] => []
  | .push node :: rest =>
      (if layout.Accepts node then [node.id] else []) ++ accepted (layout.push node).2 rest
  | .finish :: rest => accepted layout.finish.2 rest

structure Keeps (layout : Layout) (ids : List ObjectId) : Prop where
  latest : layout.seen.reverse = latest layout.window ids
  distinct : layout.seen.Nodup

theorem nodup_remember {window : Option Nat} {id : ObjectId} {seen : List ObjectId} (new : id ∉ seen)
    (distinct : seen.Nodup) : (remember window id seen).Nodup := by
  have all : (id :: seen).Nodup := List.nodup_cons.mpr ⟨new, distinct⟩
  cases window with
  | none => exact all
  | some size => exact all.sublist (List.take_sublist size _)

theorem Keeps.push (keeps : layout.Keeps ids) (node : Commit) :
    (layout.push node).2.Keeps (ids ++ if layout.Accepts node then [node.id] else []) := by
  obtain ⟨kept, distinct⟩ := keeps
  by_cases new : node.id ∈ layout.seen
  · rw [if_neg fun accepts => accepts_iff.mp accepts new, List.append_nil]
    constructor <;> rw [seen_push, if_pos new]
    · rw [window_push, kept]
    · exact distinct
  · rw [if_pos (accepts_iff.mpr new)]
    constructor <;> rw [seen_push, if_neg new]
    · rw [window_push]
      exact reverse_remember kept node.id
    · exact nodup_remember new distinct

theorem Keeps.foldl_move (keeps : layout.Keeps ids) (moves : List Move) :
    (moves.foldl Layout.move layout).Keeps (ids ++ layout.accepted moves) := by
  induction moves generalizing layout ids with
  | nil => simpa [accepted] using keeps
  | cons step moves ih =>
      cases step with
      | push node =>
          rw [accepted, ← List.append_assoc]
          exact ih (keeps.push node)
      | finish => exact ih ⟨keeps.latest, keeps.distinct⟩

theorem window_move (layout : Layout) (step : Move) : (layout.move step).window = layout.window := by
  cases step with
  | push node => exact window_push layout node
  | finish => rfl

theorem window_foldl_move (layout : Layout) (moves : List Move) :
    (moves.foldl move layout).window = layout.window := by
  induction moves generalizing layout with
  | nil => rfl
  | cons step moves ih => rw [List.foldl_cons, ih, window_move]

theorem keeps_after (window : Option Nat) (moves : List Move) :
    (after window moves).Keeps ((start window).accepted moves) := by
  have fresh : (start window).Keeps [] := by
    constructor
    · cases window <;> simp [start, latest]
    · exact List.nodup_nil
  exact fresh.foldl_move moves

end Run

namespace Memory

variable {size : Nat} {layout : Layout} {memory : Memory}

theorem rtake_cons {queue : List ObjectId} (crowded : size ≤ queue.length) (oldest : ObjectId) :
    (oldest :: queue).rtake size = queue.rtake size := by
  rw [List.rtake, List.rtake, List.length_cons, Nat.succ_sub crowded, List.drop_succ_cons]

theorem rtake_of_length_le {queue : List ObjectId} (roomy : queue.length ≤ size) : queue.rtake size = queue := by
  rw [List.rtake, Nat.sub_eq_zero_of_le roomy, List.drop_zero]

/-- Of a queue without repeats no entry is stale: what is taken out of the set stays out. -/
theorem forget_eq {queue : List ObjectId} (distinct : queue.Nodup) (size : Nat) :
    forget size queue.toFinset queue = ⟨(queue.rtake size).toFinset, queue.rtake size⟩ := by
  induction queue with
  | nil => simp [forget]
  | cons oldest queue ih =>
      obtain ⟨only, distinct⟩ := List.nodup_cons.mp distinct
      rw [forget]
      split
      next crowded =>
        have rest : (oldest :: queue).toFinset.erase oldest = queue.toFinset := by
          rw [List.toFinset_cons, Finset.erase_insert (by simpa using only)]
        rw [rest, ih distinct, rtake_cons (Nat.le_of_lt_succ crowded)]
      next roomy => rw [rtake_of_length_le (Nat.le_of_not_lt roomy)]

structure Mirrors (layout : Layout) (memory : Memory) : Prop where
  table : memory.table = layout.seen.toFinset
  queue : memory.queue = layout.window.elim [] fun _ => layout.seen.reverse

theorem Mirrors.mem_table (mirrors : Mirrors layout memory) (id : ObjectId) :
    id ∈ memory.table ↔ id ∈ layout.seen := by
  rw [mirrors.table, List.mem_toFinset]

theorem Mirrors.enter_fst (mirrors : Mirrors layout memory) (node : Commit) :
    (memory.enter layout.window node.id).1 = true ↔ layout.Accepts node := by
  rw [accepts_iff, ← mirrors.mem_table]
  unfold enter
  split
  next repeated => simp [repeated]
  next new => cases layout.window <;> simp [new]

theorem Mirrors.push (mirrors : Mirrors layout memory) (distinct : layout.seen.Nodup) (node : Commit) :
    Mirrors (layout.push node).2 (memory.enter layout.window node.id).2 := by
  unfold enter
  by_cases repeated : node.id ∈ layout.seen
  · rw [if_pos ((mirrors.mem_table node.id).mpr repeated)]
    constructor <;> rw [seen_push, if_pos repeated]
    · exact mirrors.table
    · rw [window_push]
      exact mirrors.queue
  · have longer : (layout.seen.reverse ++ [node.id]).Nodup := by
      rw [← List.reverse_cons, List.nodup_reverse]
      exact List.nodup_cons.mpr ⟨repeated, distinct⟩
    have table : insert node.id memory.table = (layout.seen.reverse ++ [node.id]).toFinset := by
      rw [mirrors.table, ← List.reverse_cons, List.toFinset_reverse, List.toFinset_cons]
    have queue := mirrors.queue
    rw [if_neg fun member => repeated ((mirrors.mem_table node.id).mp member)]
    cases limit : layout.window with
    | none =>
        rw [limit] at queue
        constructor <;> simp only [seen_push, if_neg repeated, window_push, limit, remember]
        · rw [table, ← List.reverse_cons, List.toFinset_reverse]
        · exact queue
    | some size =>
        rw [limit, Option.elim] at queue
        have kept : (layout.seen.reverse ++ [node.id]).rtake size =
            (remember (some size) node.id layout.seen).reverse := by
          rw [List.rtake_eq_reverse_take_reverse, List.reverse_append, List.reverse_reverse]
          rfl
        constructor <;>
          simp only [seen_push, if_neg repeated, window_push, limit, table, queue, forget_eq longer, kept]
        · exact List.toFinset_reverse
        · rfl

theorem Mirrors.foldl_move {ids : List ObjectId} (mirrors : Mirrors layout memory) (keeps : layout.Keeps ids)
    (moves : List Move) :
    Mirrors (moves.foldl Layout.move layout) (moves.foldl (move layout.window) memory) := by
  induction moves generalizing layout memory ids with
  | nil => exact mirrors
  | cons step moves ih =>
      cases step with
      | push node =>
          have later := ih (mirrors.push keeps.distinct node) (keeps.push node)
          rwa [window_push] at later
      | finish =>
          have closed : Mirrors layout.finish.2 memory := ⟨mirrors.table, mirrors.queue⟩
          exact ih closed ⟨keeps.latest, keeps.distinct⟩

theorem mirrors_after (window : Option Nat) (moves : List Move) :
    Mirrors (Layout.after window moves) (after window moves) := by
  have fresh : Mirrors (start window) blank := ⟨rfl, by cases window <;> rfl⟩
  have unused : (start window).Keeps [] := keeps_after window []
  exact fresh.foldl_move unused moves

end Memory

/-- At every moment a layout remembers the ids of the commits accepted last, as many as its window
has room for, and asks for nothing else when it reports a repeat or an early parent. -/
theorem seen_eq_latest (window : Option Nat) (moves : List Move) (node : Commit) :
    let layout := after window moves
    let ids := (start window).accepted moves
    let memory := Memory.after window moves
    (layout.seen.reverse = latest window ids ∧ layout.seen.Nodup ∧
        layout.seen.length = window.elim ids.length fun size => min size ids.length) ∧
      (memory.table = (latest window ids).toFinset ∧ memory.table.card = layout.seen.length ∧
        ((memory.enter window node.id).1 = true ↔ layout.Accepts node)) ∧
      (.duplicateCommit node.id ∈ layout.reports node ↔ node.id ∈ latest window ids) ∧
      (layout.Accepts node →
        layout.reports node = objections (latest window (ids ++ [node.id])) node.id node.parents ∧
          ∀ parent ∈ node.parents, .parentAlreadyLaidOut node.id parent ∈ layout.reports node ↔
            parent ∈ latest window (ids ++ [node.id])) := by
  intro layout ids memory
  have limit : layout.window = window := window_foldl_move (start window) moves
  have keeps : layout.Keeps ids := keeps_after window moves
  have mirrors : Memory.Mirrors layout memory := Memory.mirrors_after window moves
  obtain ⟨kept, distinct⟩ := keeps
  rw [limit] at kept
  refine ⟨⟨kept, distinct, ?_⟩, ⟨?_, ?_, ?_⟩, ?_, fun accepts => ?_⟩
  · rw [← length_latest, ← kept, List.length_reverse]
  · rw [mirrors.table, ← kept, List.toFinset_reverse]
  · rw [mirrors.table, List.toFinset_card_of_nodup distinct]
  · rw [← limit]
    exact mirrors.enter_fst node
  · rw [← not_iff_not, ← kept, List.mem_reverse]
    exact accepts_iff
  · have new := accepts_iff.mp accepts
    have known : ∀ id, id ∈ (layout.push node).2.seen ↔ id ∈ latest window (ids ++ [node.id]) := by
      intro id
      rw [← reverse_remember kept, List.mem_reverse, seen_push, if_neg new, limit]
    have reported : layout.reports node =
        objections (latest window (ids ++ [node.id])) node.id node.parents := by
      rw [reports_eq, if_neg new, objections_congr known]
    refine ⟨reported, fun parent listed => ?_⟩
    rw [reported]
    exact parentAlreadyLaidOut_mem_objections listed

/-- With room for two ids, the first commit is forgotten when the third has come. It is accepted
again, and its old entry does not make it be forgotten before the third: of the two parents listed
next, it alone comes too early. -/
theorem seen_eq_latest_forgotten :
    let named (number : UInt8) := (sampleNode number []).id
    let moves := [1, 2, 3, 1].map fun number => Move.push (sampleNode number [])
    let layout := after (some 2) moves
    let child := sampleNode 4 [3, 1]
    layout.seen.reverse = [3, 1].map named ∧ layout.Accepts child ∧
      .parentAlreadyLaidOut child.id (named 1) ∈ layout.reports child ∧
      .parentAlreadyLaidOut child.id (named 3) ∉ layout.reports child := by
  intro named moves layout child
  have ids : latest (some 2) ((start (some 2)).accepted moves) = [3, 1].map named := by decide +kernel
  have accepts : layout.Accepts child := by decide +kernel
  obtain ⟨⟨seen, -, -⟩, -, -, early⟩ := seen_eq_latest (some 2) moves child
  obtain ⟨-, early⟩ := early accepts
  refine ⟨seen.trans ids, accepts, ?_, fun reported => ?_⟩
  · exact (early (named 1) (by decide)).mpr (by decide +kernel)
  · exact absurd ((early (named 3) (by decide)).mp reported) (by decide +kernel)

end CommitLanes.Layout
