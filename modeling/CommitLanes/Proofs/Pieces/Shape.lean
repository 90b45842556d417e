import CommitLanes.Proofs.Pieces

/-! The shape of a text, told without taking it apart.

A text has one list of longest runs and one division into lines, up to any number of them. Taking
it apart gives these.
-/

set_option autoImplicit false

namespace CommitLanes.Pieces

variable {α : Type} {sep : α → Bool} {text : List α}

section Runs

/-- The words are the longest runs of the text without a separator, in their order. A word begins
behind a gap, which is empty at most in front of the first, and ends at a separator or at the end. -/
inductive Runs (sep : α → Bool) : List α → List (List α) → Prop
  | none {gap : List α} (blank : ∀ a ∈ gap, sep a = true) : Runs sep gap []
  | word {gap word rest : List α} {words : List (List α)} (blank : ∀ a ∈ gap, sep a = true) (full : word ≠ [])
      (clear : ∀ a ∈ word, sep a = false) (stops : ∀ a ∈ rest.head?, sep a = true)
      (others : Runs sep rest words) : Runs sep (gap ++ word ++ rest) (word :: words)

theorem runs_cons {a : α} (isMark : sep a = true) (rest : List α) : runs sep (a :: rest) = runs sep rest := by
  rw [runs, split, if_pos isMark]
  rfl

theorem runs_gap {gap : List α} (blank : ∀ a ∈ gap, sep a = true) (rest : List α) :
    runs sep (gap ++ rest) = runs sep rest := by
  induction gap with
  | nil => rfl
  | cons a gap ih =>
      obtain ⟨isMark, blank⟩ := List.forall_mem_cons.mp blank
      rw [List.cons_append, runs_cons isMark, ih blank]

theorem runs_word {word rest : List α} (full : word ≠ []) (clear : ∀ a ∈ word, sep a = false)
    (stops : ∀ a ∈ rest.head?, sep a = true) : runs sep (word ++ rest) = word :: runs sep rest := by
  have kept : (!word.isEmpty) = true := by simpa using full
  cases rest with
  | nil =>
      rw [List.append_nil, runs, split_of_uncut (cut_eq_none_iff.mpr clear), List.filter_cons, if_pos kept]
      rfl
  | cons mark rest =>
      have isMark : sep mark = true := stops mark rfl
      rw [runs_cons isMark, runs, split_of_cut (cut_of_clear clear isMark rest), List.filter_cons, if_pos kept]
      rfl

theorem Runs.eq_runs {words : List (List α)} (shape : Runs sep text words) : runs sep text = words := by
  induction shape with
  | none blank =>
      have all := runs_gap blank []
      rwa [List.append_nil] at all
  | word blank full clear stops others ih => rw [List.append_assoc, runs_gap blank, runs_word full clear stops, ih]

theorem Runs.cons_gap {a : α} (isMark : sep a = true) {words : List (List α)} (shape : Runs sep text words) :
    Runs sep (a :: text) words := by
  cases shape with
  | none blank => exact .none (List.forall_mem_cons.mpr ⟨isMark, blank⟩)
  | @word gap word rest words blank full clear stops others =>
      exact .word (List.forall_mem_cons.mpr ⟨isMark, blank⟩) full clear stops others

theorem Runs.append_gap {a : α} (isMark : sep a = true) {words : List (List α)} (shape : Runs sep text words) :
    Runs sep (text ++ [a]) words := by
  induction shape with
  | none blank =>
      refine .none fun b member => (List.mem_append.mp member).elim (blank b) fun last => ?_
      rwa [List.mem_singleton.mp last]
  | @word gap word rest words blank full clear stops others ih =>
      have stopsHere : ∀ b ∈ (rest ++ [a]).head?, sep b = true := by
        cases rest with
        | nil =>
            rintro b ⟨⟩
            exact isMark
        | cons first rest => exact stops
      rw [List.append_assoc]
      exact .word blank full clear stopsHere ih

theorem exists_runs (sep : α → Bool) (text : List α) : ∃ words, Runs sep text words := by
  induction text with
  | nil => exact ⟨[], .none (fun _ member => absurd member List.not_mem_nil)⟩
  | cons a text ih =>
      obtain ⟨words, shape⟩ := ih
      have empty : ∀ a ∈ ([] : List α), sep a = true := fun _ member => absurd member List.not_mem_nil
      cases isMark : sep a with
      | true => exact ⟨words, shape.cons_gap isMark⟩
      | false =>
          have single : ∀ b ∈ [a], sep b = false := fun b member => by rw [List.mem_singleton.mp member, isMark]
          -- It begins the first run of the rest, or is a run of its own where a gap follows.
          cases shape with
          | @none gap blank =>
              have stops : ∀ b ∈ text.head?, sep b = true := fun b first => blank b (List.mem_of_mem_head? first)
              exact ⟨_, .word empty (List.cons_ne_nil a []) single stops (.none blank)⟩
          | @word gap word rest words blank full clear stops others =>
              cases gap with
              | nil =>
                  have longer : ∀ b ∈ a :: word, sep b = false := List.forall_mem_cons.mpr ⟨isMark, clear⟩
                  exact ⟨_, .word empty (List.cons_ne_nil a word) longer stops others⟩
              | cons mark gap =>
                  have stopsHere : ∀ b ∈ (mark :: gap ++ word ++ rest).head?, sep b = true := by
                    rintro b ⟨⟩
                    exact blank mark (List.mem_cons_self ..)
                  exact ⟨_, .word empty (List.cons_ne_nil a []) single stopsHere (.word blank full clear stops others)⟩

theorem runs_of_marked {mark : α} (isMark : sep mark = true) {words : List (List α)}
    (solid : ∀ word ∈ words, word ≠ [] ∧ ∀ a ∈ word, sep a = false) :
    Runs sep (words.flatMap fun word => mark :: word) words := by
  induction words with
  | nil => exact .none fun _ member => absurd member List.not_mem_nil
  | cons word words ih =>
      obtain ⟨⟨full, clear⟩, solid⟩ := List.forall_mem_cons.mp solid
      have blank : ∀ a ∈ [mark], sep a = true := fun a member => by rw [List.mem_singleton.mp member, isMark]
      have stops : ∀ a ∈ (words.flatMap fun word => mark :: word).head?, sep a = true := by
        cases words with
        | nil => exact fun a first => absurd first (by simp)
        | cons next words =>
            rintro a ⟨⟩
            exact isMark
      exact .word blank full clear stops (ih solid)

end Runs

section Lines

variable {mark : α} {limit : Nat}

/-- So many lines that a mark closes, and behind them what is left. Fewer than there may be are
left only where no further line is closed. -/
structure Lines (sep : α → Bool) (mark : α) (limit : Nat) (text : List α) (lines : List (List α))
    (last : List α) : Prop where
  text : text = (lines.flatMap fun line => line ++ [mark]) ++ last
  clear : ∀ line ∈ lines, ∀ a ∈ line, sep a = false
  most : lines.length ≤ limit
  all : lines.length < limit → ∀ a ∈ last, sep a = false

theorem exists_lines (only : ∀ a, sep a = true → a = mark) (limit : Nat) (text : List α) :
    ∃ lines last, Lines sep mark limit text lines last := by
  induction limit generalizing text with
  | zero =>
      refine ⟨[], text, rfl, fun _ member => absurd member List.not_mem_nil, Nat.le_refl _, ?_⟩
      exact fun fewer => absurd fewer (Nat.lt_irrefl _)
  | succ limit ih =>
      cases found : cut sep text with
      | none =>
          refine ⟨[], text, rfl, fun _ member => absurd member List.not_mem_nil, Nat.zero_le _, ?_⟩
          exact fun _ => cut_eq_none_iff.mp found
      | some parts =>
          obtain ⟨line, rest⟩ := parts
          obtain ⟨other, isMark, rfl, clear⟩ := eq_of_cut found
          obtain ⟨lines, last, divided⟩ := ih rest
          refine ⟨line :: lines, last, ?_, List.forall_mem_cons.mpr ⟨clear, divided.clear⟩,
            Nat.succ_le_succ divided.most, fun fewer => divided.all (Nat.lt_of_succ_lt_succ fewer)⟩
          rw [List.flatMap_cons, only other isMark, divided.text, List.append_assoc, List.append_assoc]
          rfl

/-- Lines that a mark closes are cut off one by one; what stands behind the last is split further, up
to the pieces that are left. -/
theorem splitUpTo_lines_append (isMark : sep mark = true) {lines : List (List α)}
    (clear : ∀ line ∈ lines, ∀ a ∈ line, sep a = false) (last : List α)
    (limit : Nat) :
    splitUpTo sep (lines.length + (limit + 1)) ((lines.flatMap fun line => line ++ [mark]) ++ last) =
      lines ++ splitUpTo sep (limit + 1) last := by
  induction lines with
  | nil => rw [List.length_nil, Nat.zero_add, List.flatMap_nil, List.nil_append, List.nil_append]
  | cons line lines ih =>
      have cut := cut_of_clear (clear line (List.mem_cons_self ..)) isMark
        ((lines.flatMap fun line => line ++ [mark]) ++ last)
      have more : lines.length + 1 + (limit + 1) = lines.length + limit + 2 := by omega
      simp only [List.flatMap_cons, List.length_cons, List.append_assoc, List.cons_append, List.nil_append]
      rw [more, splitUpTo, cut]
      exact congrArg (line :: ·) (ih fun other member => clear other (List.mem_cons_of_mem line member))

theorem splitUpTo_of_clear (clear : ∀ a ∈ text, sep a = false) (limit : Nat) :
    splitUpTo sep (limit + 1) text = [text] := by
  cases limit with
  | zero => rfl
  | succ limit => rw [splitUpTo, cut_eq_none_iff.mpr clear]

theorem countP_lines (isMark : sep mark = true) {lines : List (List α)}
    (clear : ∀ line ∈ lines, ∀ a ∈ line, sep a = false) (last : List α) :
    ((lines.flatMap fun line => line ++ [mark]) ++ last).countP sep = lines.length + last.countP sep := by
  induction lines with
  | nil => simp
  | cons line lines ih =>
      obtain ⟨first, clear⟩ := List.forall_mem_cons.mp clear
      have none : line.countP sep = 0 := List.countP_eq_zero.mpr fun a member => by simp [first a member]
      rw [List.flatMap_cons, List.append_assoc, List.countP_append, ih clear, List.countP_append, none,
        List.countP_singleton, if_pos isMark, List.length_cons]
      omega

variable {lines : List (List α)} {last : List α}

theorem Lines.length_le_countP (isMark : sep mark = true) (divided : Lines sep mark limit text lines last) :
    lines.length ≤ text.countP sep := by
  rw [divided.text, countP_lines isMark divided.clear]
  exact Nat.le_add_right ..

theorem Lines.countP_of_fewer (isMark : sep mark = true) (divided : Lines sep mark limit text lines last)
    (fewer : lines.length < limit) : text.countP sep = lines.length := by
  have none : last.countP sep = 0 :=
    List.countP_eq_zero.mpr fun a member => by simp [divided.all fewer a member]
  rw [divided.text, countP_lines isMark divided.clear, none, Nat.add_zero]

theorem Lines.splitUpTo_of_fewer (isMark : sep mark = true) (divided : Lines sep mark limit text lines last)
    (fewer : lines.length < limit) {pieces : Nat} (room : limit ≤ pieces) :
    splitUpTo sep pieces text = lines ++ [last] := by
  have more : pieces = lines.length + (pieces - lines.length - 1 + 1) := by omega
  rw [more, divided.text, splitUpTo_lines_append isMark divided.clear, splitUpTo_of_clear (divided.all fewer)]

end Lines

end CommitLanes.Pieces
