import CommitLanes.Pool
import Mathlib.Data.List.Induction
import Mathlib.Data.List.Nodup
import Mathlib.Data.List.Pairwise

/-! What a pool keeps and what it shares.

The room in a pool goes to the texts that come first and are short enough, and they have it for
good. Nothing is evicted, so a text that was refused once is refused whenever it comes again. Two
calls are answered with the same place only where the pool has the text that both ask for.
-/

set_option autoImplicit false

namespace CommitLanes.Pool

variable {pool : Pool} {text : Text} {calls : List Text} {handles : List Handle} {capacity longest : Nat}

def held (pool : Pool) : List Text :=
  pool.entries.map (·.text)

section Call

theorem intern_cases (pool : Pool) (text : Text) :
    (∃ entry ∈ pool.entries, entry.text = text ∧
        pool.intern text = (entry, { pool with hits := pool.hits + 1 })) ∨
      (text ∉ pool.held ∧ pool.hasRoomFor text = true ∧ pool.intern text = (pool.fresh text, pool.keep text)) ∨
      (text ∉ pool.held ∧ pool.hasRoomFor text = false ∧ pool.intern text = (pool.fresh text, pool.refuse)) := by
  unfold intern
  cases found : pool.entries.find? fun entry => entry.text = text with
  | some entry =>
      have same : entry.text = text := by simpa using List.find?_some found
      exact .inl ⟨entry, List.mem_of_find?_eq_some found, same, rfl⟩
  | none =>
      have new : text ∉ pool.held := by
        simpa [held] using List.find?_eq_none.mp found
      cases room : pool.hasRoomFor text with
      | true => exact .inr (.inl ⟨new, rfl, rfl⟩)
      | false => exact .inr (.inr ⟨new, rfl, rfl⟩)

theorem hasRoomFor_eq_true_iff : pool.hasRoomFor text = true ↔ text.size ≤ pool.longest ∧ pool.size < pool.capacity := by
  rw [hasRoomFor, Bool.and_eq_true, decide_eq_true_eq, decide_eq_true_eq]

theorem hasRoomFor_eq_false_iff : pool.hasRoomFor text = false ↔ pool.longest < text.size ∨ pool.capacity ≤ pool.size := by
  rw [Bool.eq_false_iff, ne_eq, hasRoomFor_eq_true_iff]
  omega

theorem length_held (pool : Pool) : pool.held.length = pool.size :=
  List.length_map _

theorem size_keep (pool : Pool) (text : Text) : (pool.keep text).size = pool.size + 1 :=
  List.length_append

theorem held_keep (pool : Pool) (text : Text) : (pool.keep text).held = pool.held ++ [text] :=
  List.map_append

theorem internAll_append (pool : Pool) (calls later : List Text) :
    pool.internAll (calls ++ later) =
      ((pool.internAll calls).1 ++ ((pool.internAll calls).2.internAll later).1,
        ((pool.internAll calls).2.internAll later).2) := by
  induction calls generalizing pool with
  | nil => rfl
  | cons first rest ih => simp [internAll, ih]

theorem internAll_concat (pool : Pool) (calls : List Text) (text : Text) :
    pool.internAll (calls ++ [text]) =
      ((pool.internAll calls).1 ++ [((pool.internAll calls).2.intern text).1],
        ((pool.internAll calls).2.intern text).2) :=
  internAll_append pool calls [text]

theorem map_text_internAll (pool : Pool) (calls : List Text) :
    (pool.internAll calls).1.map (·.text) = calls := by
  induction calls generalizing pool with
  | nil => rfl
  | cons first rest ih => simp [internAll, ih]

end Call

section Keeping

/-- The first of the different texts that are short enough, as many as there is room for. -/
def kept (capacity longest : Nat) (calls : List Text) : List Text :=
  (calls.filter fun text => text.size ≤ longest).eraseDups.take capacity

def isRepeat (capacity longest : Nat) (calls : List Text) (call : Nat) : Bool :=
  calls[call]?.any fun text => text ∈ kept capacity longest (calls.take call)

theorem eraseDups_concat (calls : List Text) (text : Text) :
    (calls ++ [text]).eraseDups = calls.eraseDups ++ if text ∈ calls then [] else [text] := by
  rw [List.eraseDups_append]
  by_cases known : text ∈ calls
  · simp [List.removeAll, known]
  · simp [List.removeAll, known, List.eraseDups_cons]

theorem kept_concat (capacity longest : Nat) (calls : List Text) (text : Text) :
    kept capacity longest (calls ++ [text]) =
      if text ∈ kept capacity longest calls then kept capacity longest calls
      else if text.size ≤ longest ∧ (kept capacity longest calls).length < capacity then
        kept capacity longest calls ++ [text]
      else kept capacity longest calls := by
  by_cases short : text.size ≤ longest
  · unfold kept
    rw [List.filter_append, List.filter_singleton, decide_eq_true short, cond_true, eraseDups_concat]
    generalize calls.filter (fun text => text.size ≤ longest) = others
    by_cases known : text ∈ others
    · -- It is among the different texts already, if not among those that found room.
      have stays : text ∈ others.eraseDups.take capacity ∨ ¬(others.eraseDups.take capacity).length < capacity := by
        by_cases roomy : others.eraseDups.length ≤ capacity
        · left
          rw [List.take_of_length_le roomy]
          exact List.mem_eraseDups.mpr known
        · right
          rw [List.length_take]
          omega
      rcases stays with inside | full
      · simp [known, inside]
      · rw [if_pos known, List.append_nil]
        simp only [full, and_false, if_false, ite_self]
    · have outside : text ∉ others.eraseDups.take capacity :=
        fun member => known (List.mem_eraseDups.mp (List.mem_of_mem_take member))
      rw [if_neg known, if_neg outside, List.take_append, List.length_take]
      by_cases roomy : others.eraseDups.length < capacity
      · have fits : [text].length ≤ capacity - others.eraseDups.length := Nat.sub_pos_of_lt roomy
        rw [if_pos ⟨short, by omega⟩, List.take_of_length_le fits]
      · rw [if_neg (by omega), Nat.sub_eq_zero_of_le (by omega), List.take_zero, List.append_nil]
  · simp [kept, short]

theorem isRepeat_append {call : Nat} (inside : call < calls.length) (later : List Text) :
    isRepeat capacity longest (calls ++ later) call = isRepeat capacity longest calls call := by
  rw [isRepeat, isRepeat, List.getElem?_append_left inside, List.take_append_of_le_length (Nat.le_of_lt inside)]

theorem countP_isRepeat_concat (capacity longest : Nat) (calls : List Text) (text : Text) :
    (List.range (calls ++ [text]).length).countP (isRepeat capacity longest (calls ++ [text])) =
      (List.range calls.length).countP (isRepeat capacity longest calls) +
        if text ∈ kept capacity longest calls then 1 else 0 := by
  rw [List.length_append, List.length_singleton, List.range_succ, List.countP_append, List.countP_singleton]
  congr 1
  · exact List.countP_congr fun call inside => by rw [isRepeat_append (List.mem_range.mp inside)]
  · simp [isRepeat]

structure Filled (capacity longest : Nat) (calls : List Text) (pool : Pool) : Prop where
  limits : pool.capacity = capacity ∧ pool.longest = longest
  held : pool.held = kept capacity longest calls
  hits : pool.hits = (List.range calls.length).countP (isRepeat capacity longest calls)

theorem filled_empty (capacity longest : Nat) : Filled capacity longest [] (empty capacity longest) :=
  ⟨⟨rfl, rfl⟩, by simp [kept, Pool.held, empty], rfl⟩

theorem Filled.intern (filled : Filled capacity longest calls pool) (text : Text) :
    Filled capacity longest (calls ++ [text]) (pool.intern text).2 := by
  obtain ⟨⟨rfl, rfl⟩, held, hits⟩ := filled
  have room : pool.hasRoomFor text = true ↔
      text.size ≤ pool.longest ∧ (kept pool.capacity pool.longest calls).length < pool.capacity := by
    rw [hasRoomFor_eq_true_iff, ← held, length_held]
  rcases pool.intern_cases text with ⟨entry, inside, rfl, answer⟩ | ⟨new, admitted, answer⟩ | ⟨new, refused, answer⟩
  · have known : entry.text ∈ pool.held := List.mem_map_of_mem inside
    rw [held] at known
    rw [answer]
    refine ⟨⟨rfl, rfl⟩, ?_, ?_⟩
    · rw [kept_concat, if_pos known]
      exact held
    · rw [countP_isRepeat_concat, if_pos known, ← hits]
  · rw [held] at new
    rw [answer]
    refine ⟨⟨rfl, rfl⟩, ?_, ?_⟩
    · rw [kept_concat, if_neg new, if_pos (room.mp admitted), ← held]
      exact held_keep pool text
    · rw [countP_isRepeat_concat, if_neg new, ← hits]
      rfl
  · rw [held] at new
    rw [answer]
    refine ⟨⟨rfl, rfl⟩, ?_, ?_⟩
    · rw [kept_concat, if_neg new, if_neg (fun roomy => absurd (room.mpr roomy) (by simp [refused])), ← held]
      rfl
    · rw [countP_isRepeat_concat, if_neg new, ← hits]
      rfl

theorem filled_internAll (capacity longest : Nat) (calls : List Text) :
    Filled capacity longest calls ((empty capacity longest).internAll calls).2 := by
  induction calls using List.reverseRecOn with
  | nil => exact filled_empty capacity longest
  | append_singleton calls text ih =>
      rw [internAll_concat]
      exact ih.intern text

end Keeping

section Sharing

/-- The text is not in the pool and can never get in. -/
def Refuses (pool : Pool) (text : Text) : Prop :=
  text ∉ pool.held ∧ pool.hasRoomFor text = false

/-- Two handles have one place where they have one text that is in the pool, and nowhere else. -/
def Shares (pool : Pool) (first second : Handle) : Prop :=
  first.place = second.place ↔ first.text = second.text ∧ first.text ∈ pool.held

structure Gave (pool : Pool) (handles : List Handle) : Prop where
  entries : pool.entries ⊆ handles
  distinct : pool.held.Nodup
  written : ∀ handle ∈ handles, handle.place < pool.written
  /-- A handle that is not in the pool has lost its chance. -/
  settled : ∀ handle ∈ handles, handle ∈ pool.entries ∨ pool.Refuses handle.text
  shares : handles.Pairwise pool.Shares

theorem gave_empty (capacity longest : Nat) : (empty capacity longest).Gave [] :=
  ⟨List.Subset.refl _, List.nodup_nil, nofun, nofun, .nil⟩

theorem Shares.symm {first second : Handle} (shares : pool.Shares first second) : pool.Shares second first := by
  unfold Shares at shares ⊢
  rw [eq_comm, shares]
  constructor
  · rintro ⟨same, member⟩
    exact ⟨same.symm, same ▸ member⟩
  · rintro ⟨same, member⟩
    exact ⟨same.symm, same ▸ member⟩

instance (pool : Pool) : Std.Symm pool.Shares where
  symm _ _ := Shares.symm

theorem Gave.shares_of_mem (gave : pool.Gave handles) {first entry : Handle} (given : first ∈ handles)
    (inside : entry ∈ pool.entries) : pool.Shares first entry := by
  by_cases same : first = entry
  · subst same
    exact iff_of_true rfl ⟨rfl, List.mem_map_of_mem inside⟩
  · exact gave.shares.forall given (gave.entries inside) same

theorem Gave.place_ne (gave : pool.Gave handles) : ∀ handle ∈ handles, handle.place ≠ pool.written :=
  fun handle given => Nat.ne_of_lt (gave.written handle given)

/-- What the pool has room for now was never asked for before. -/
theorem Gave.text_ne (gave : pool.Gave handles) (new : text ∉ pool.held) (room : pool.hasRoomFor text = true) :
    ∀ handle ∈ handles, handle.text ≠ text := by
  rintro handle given rfl
  rcases gave.settled handle given with inside | ⟨-, full⟩
  · exact new (List.mem_map_of_mem inside)
  · rw [room] at full
    cases full

theorem Gave.answered (gave : pool.Gave handles) {entry : Handle} (inside : entry ∈ pool.entries) :
    { pool with hits := pool.hits + 1 }.Gave (handles ++ [entry]) where
  entries := List.subset_append_of_subset_left _ gave.entries
  distinct := gave.distinct
  written := List.forall_mem_append.mpr
    ⟨gave.written, List.forall_mem_singleton.mpr (gave.written entry (gave.entries inside))⟩
  settled := List.forall_mem_append.mpr ⟨gave.settled, List.forall_mem_singleton.mpr (.inl inside)⟩
  shares := by
    refine List.pairwise_append.mpr ⟨gave.shares, List.pairwise_singleton .., fun first given last same => ?_⟩
    obtain rfl := List.mem_singleton.mp same
    exact gave.shares_of_mem given inside

/-- There is less room than before, and the text that came in is not the one that was refused. -/
theorem Refuses.keep {other : Text} (refuses : pool.Refuses other) (different : other ≠ text) :
    (pool.keep text).Refuses other := by
  obtain ⟨outside, full⟩ := refuses
  constructor
  · rw [held_keep, List.mem_append, List.mem_singleton, or_iff_left different]
    exact outside
  · rw [hasRoomFor_eq_false_iff] at full ⊢
    rw [size_keep]
    exact full.imp_right Nat.le_succ_of_le

theorem Gave.kept (gave : pool.Gave handles) (new : text ∉ pool.held) (room : pool.hasRoomFor text = true) :
    (pool.keep text).Gave (handles ++ [pool.fresh text]) := by
  have others := gave.text_ne new room
  constructor
  · exact List.append_subset.mpr ⟨List.subset_append_of_subset_left _ gave.entries, List.subset_append_right ..⟩
  · rw [held_keep, ← List.concat_eq_append]
    exact gave.distinct.concat new
  · exact List.forall_mem_append.mpr ⟨fun handle given => Nat.lt_succ_of_lt (gave.written handle given),
      List.forall_mem_singleton.mpr (Nat.lt_succ_self _)⟩
  · refine List.forall_mem_append.mpr ⟨fun handle given => ?_, List.forall_mem_singleton.mpr (.inl ?_)⟩
    · exact (gave.settled handle given).imp (List.mem_append_left _) fun refuses => refuses.keep (others handle given)
    · exact List.mem_append_right _ (List.mem_singleton_self _)
  · refine List.pairwise_append.mpr ⟨?_, List.pairwise_singleton .., fun first given last same => ?_⟩
    · refine gave.shares.imp_of_mem fun {first second} given _ shares => ?_
      rw [Shares, held_keep, List.mem_append, List.mem_singleton, or_iff_left (others first given)]
      exact shares
    · obtain rfl := List.mem_singleton.mp same
      exact iff_of_false (gave.place_ne first given) fun both => others first given both.1

theorem Gave.refused (gave : pool.Gave handles) (refuses : pool.Refuses text) :
    pool.refuse.Gave (handles ++ [pool.fresh text]) where
  entries := List.subset_append_of_subset_left _ gave.entries
  distinct := gave.distinct
  written := List.forall_mem_append.mpr ⟨fun handle given => Nat.lt_succ_of_lt (gave.written handle given),
    List.forall_mem_singleton.mpr (Nat.lt_succ_self _)⟩
  settled := List.forall_mem_append.mpr ⟨gave.settled, List.forall_mem_singleton.mpr (.inr refuses)⟩
  shares := by
    refine List.pairwise_append.mpr ⟨gave.shares, List.pairwise_singleton .., fun first given last same => ?_⟩
    obtain rfl := List.mem_singleton.mp same
    refine iff_of_false (gave.place_ne first given) fun ⟨same, member⟩ => refuses.1 ?_
    rwa [← show first.text = text from same]

theorem Gave.intern (gave : pool.Gave handles) (text : Text) :
    (pool.intern text).2.Gave (handles ++ [(pool.intern text).1]) := by
  rcases pool.intern_cases text with ⟨entry, inside, rfl, answer⟩ | ⟨new, admitted, answer⟩ | ⟨new, full, answer⟩
  · rw [answer]
    exact gave.answered inside
  · rw [answer]
    exact gave.kept new admitted
  · rw [answer]
    exact gave.refused ⟨new, full⟩

theorem gave_internAll (capacity longest : Nat) (calls : List Text) :
    ((empty capacity longest).internAll calls).2.Gave ((empty capacity longest).internAll calls).1 := by
  induction calls using List.reverseRecOn with
  | nil => exact gave_empty capacity longest
  | append_singleton calls text ih =>
      rw [internAll_concat]
      exact ih.intern text

end Sharing

/-- Whatever is asked of a new pool, every answer reads as the text asked for. The texts that come
first win the room, and nothing else does; two answers are one place in memory only for them. -/
theorem keeps_the_first_and_shares_them (capacity longest : Nat) (calls : List Text) :
    let answers := ((empty capacity longest).internAll calls).1
    let pool := ((empty capacity longest).internAll calls).2
    answers.map (·.text) = calls ∧
      pool.held = kept capacity longest calls ∧
      pool.size = (kept capacity longest calls).length ∧ pool.size ≤ capacity ∧
      pool.hits = (List.range calls.length).countP (isRepeat capacity longest calls) ∧
      ∀ (i j : Nat) (first second : Handle), i ≠ j → answers[i]? = some first → answers[j]? = some second →
        (first.sharesWith second = true ↔ first.text = second.text ∧ first.text ∈ pool.held) := by
  intro answers pool
  have filled : Filled capacity longest calls pool := filled_internAll capacity longest calls
  have gave : pool.Gave answers := gave_internAll capacity longest calls
  have size : pool.size = (kept capacity longest calls).length := by rw [← filled.held, length_held]
  refine ⟨map_text_internAll _ calls, filled.held, size, ?_, filled.hits, ?_⟩
  · rw [size]
    exact List.length_take_le ..
  · intro i j first second different here there
    rw [Handle.sharesWith, decide_eq_true_eq]
    obtain ⟨inside, rfl⟩ := List.getElem?_eq_some_iff.mp here
    obtain ⟨within, rfl⟩ := List.getElem?_eq_some_iff.mp there
    -- The relation was kept for the earlier of two calls and the later one.
    rcases Nat.lt_or_gt_of_ne different with before | behind
    · exact List.pairwise_iff_getElem.mp gave.shares i j inside within before
    · exact (List.pairwise_iff_getElem.mp gave.shares j i within inside behind).symm

/-- Room for two texts of at most three bytes: of the three that come the third one is written anew
each time, as is the long one. -/
theorem keeps_the_first_two :
    let calls := ["ab", "long", "c", "ab", "d", "c", "d", "long"].map String.toList
    let answers := ((empty 2 3).internAll calls).1
    let pool := ((empty 2 3).internAll calls).2
    pool.held = ["ab".toList, "c".toList] ∧ pool.size = 2 ∧ pool.hits = 2 ∧
      (∃ first second, answers[2]? = some first ∧ answers[5]? = some second ∧ first.sharesWith second = true) ∧
      ∃ first second, answers[4]? = some first ∧ answers[6]? = some second ∧ first.sharesWith second = false := by
  intro calls answers pool
  obtain ⟨-, held, size, -, hits, shares⟩ := keeps_the_first_and_shares_them 2 3 calls
  have room : kept 2 3 calls = ["ab".toList, "c".toList] := by decide +kernel
  have repeats : (List.range calls.length).countP (isRepeat 2 3 calls) = 2 := by decide +kernel
  rw [room] at held size
  refine ⟨held, size, hits.trans repeats, ⟨⟨['c'], 2⟩, ⟨['c'], 2⟩, by decide +kernel, by decide +kernel, ?_⟩,
    ⟨['d'], 3⟩, ⟨['d'], 4⟩, by decide +kernel, by decide +kernel, ?_⟩
  · refine (shares 2 5 _ _ (by decide) (by decide +kernel) (by decide +kernel)).mpr ⟨rfl, ?_⟩
    rw [held]
    decide
  · rw [Bool.eq_false_iff, ne_eq, shares 4 6 _ _ (by decide) (by decide +kernel) (by decide +kernel), held]
    decide

end CommitLanes.Pool
