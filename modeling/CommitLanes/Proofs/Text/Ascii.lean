import CommitLanes.Proofs.Text.Utf8
import Mathlib.Algebra.Ring.Nat

/-! Decoding brings in no ASCII.

However malformed the bytes are, a character of ASCII in their text stands for itself: longer
forms give only characters above, and a malformed place gives U+FFFD. No form runs on over a byte of
ASCII, so what stands in front of one is read without it.
-/

set_option autoImplicit false

namespace CommitLanes.Utf8

def Lead.least (lead : Lead) : Nat :=
  (lead.bits * 64 + lead.low.toNat % 64) * 64 ^ (lead.following - 1)

def Lead.beyond (lead : Lead) : Nat :=
  (lead.bits * 64 + lead.high.toNat % 64 + 1) * 64 ^ (lead.following - 1)

/-- The bytes that may follow are continuation bytes, and the codes are valid and no ASCII. -/
def Lead.isSound (lead : Lead) : Bool :=
  0x80 ≤ lead.low && lead.high ≤ 0xBF && 0x80 ≤ lead.least &&
    (lead.beyond ≤ 0xD800 || 0xE000 ≤ lead.least && lead.beyond ≤ 0x110000)

theorem sound_leads : ∀ value < 256, (lead? (UInt8.ofNat value)).all fun lead =>
    if lead.following = 0 then lead.bits == value && value < 0x80 else lead.isSound := by
  decide +kernel

theorem Lead.isSound_of_lead? {b : UInt8} {lead : Lead} (announced : lead? b = some lead)
    (longer : lead.following ≠ 0) : lead.isSound = true := by
  have sound := sound_leads b.toNat b.toNat_lt
  rwa [UInt8.ofNat_toNat, announced, Option.all_some, if_neg longer] at sound

theorem Lead.continues_of_isSound {lead : Lead} (sound : lead.isSound = true) :
    0x80 ≤ lead.low ∧ lead.high ≤ 0xBF := by
  simp only [Lead.isSound, Bool.and_eq_true, decide_eq_true_eq] at sound
  obtain ⟨⟨range, -⟩, -⟩ := sound
  exact range

theorem exists_of_follow {bits following code taken : Nat} {low high : UInt8} {rest : Bytes}
    (found : follow bits low high (following + 1) rest = (some code, taken)) :
    ∃ b later more, low ≤ b ∧ b ≤ high ∧
      follow (bits * 64 + b.toNat % 64) 0x80 0xBF following later = (some code, more) := by
  cases rest with
  | nil => simp [follow] at found
  | cons b later =>
      rw [follow] at found
      split at found
      next inside =>
        rw [Bool.and_eq_true, decide_eq_true_eq, decide_eq_true_eq] at inside
        exact ⟨b, later, _, inside.1, inside.2, Prod.ext (Prod.mk.inj found).1 rfl⟩
      next => simp at found

theorem six_between {low b high : UInt8} (least : 0x80 ≤ low) (most : high ≤ 0xBF) (above : low ≤ b)
    (below : b ≤ high) : low.toNat % 64 ≤ b.toNat % 64 ∧ b.toNat % 64 ≤ high.toNat % 64 := by
  rw [UInt8.le_iff_toNat_le] at least most above below
  -- From 128 to 191 the six bits grow with the byte.
  have first : (0x80 : UInt8).toNat = 128 := rfl
  have last : (0xBF : UInt8).toNat = 191 := rfl
  omega

theorem follow_bounds {bits following code taken : Nat} {low high : UInt8} {rest : Bytes}
    (least : 0x80 ≤ low) (most : high ≤ 0xBF)
    (found : follow bits low high (following + 1) rest = (some code, taken)) :
    (bits * 64 + low.toNat % 64) * 64 ^ following ≤ code ∧
      code < (bits * 64 + high.toNat % 64 + 1) * 64 ^ following := by
  induction following generalizing bits low high rest taken with
  | zero =>
      obtain ⟨b, later, more, above, below, given⟩ := exists_of_follow found
      have six := six_between least most above below
      rw [follow, Prod.mk.injEq, Option.some.injEq] at given
      omega
  | succ following ih =>
      obtain ⟨b, later, more, above, below, given⟩ := exists_of_follow found
      obtain ⟨lower, upper⟩ := six_between least most above below
      -- The bytes behind this one may be any continuation bytes.
      obtain ⟨atLeast, atMost⟩ := ih (UInt8.le_refl 0x80) (UInt8.le_refl 0xBF) given
      have first : (bits * 64 + low.toNat % 64) * 64 ^ (following + 1) ≤
          (bits * 64 + b.toNat % 64) * 64 ^ (following + 1) :=
        Nat.mul_le_mul_right _ (Nat.add_le_add_left lower _)
      have last : (bits * 64 + b.toNat % 64 + 1) * 64 ^ (following + 1) ≤
          (bits * 64 + high.toNat % 64 + 1) * 64 ^ (following + 1) :=
        Nat.mul_le_mul_right _ (Nat.succ_le_succ (Nat.add_le_add_left upper _))
      have least : ((bits * 64 + b.toNat % 64) * 64 + (0x80 : UInt8).toNat % 64) * 64 ^ following =
          (bits * 64 + b.toNat % 64) * 64 ^ (following + 1) := by
        rw [Nat.pow_succ']
        exact Nat.mul_assoc ..
      have beyond : ((bits * 64 + b.toNat % 64) * 64 + (0xBF : UInt8).toNat % 64 + 1) * 64 ^ following =
          (bits * 64 + b.toNat % 64 + 1) * 64 ^ (following + 1) := by
        have all : (0xBF : UInt8).toNat % 64 + 1 = 1 * 64 := rfl
        rw [Nat.pow_succ', ← Nat.mul_assoc, Nat.add_mul _ 1 64, Nat.add_assoc, all]
      omega

theorem toNat_of_valid {code : Nat} (valid : code.isValidChar) : (Char.ofNat code).toNat = code := by
  rw [Char.ofNat, dif_pos valid]
  rfl

theorem toNat_of_bounds {lead : Lead} {code : Nat} (sound : lead.isSound = true) (least : lead.least ≤ code)
    (most : code < lead.beyond) : 0x80 ≤ (Char.ofNat code).toNat := by
  simp only [Lead.isSound, Bool.and_eq_true, Bool.or_eq_true, decide_eq_true_eq] at sound
  have valid : code.isValidChar := by
    unfold Nat.isValidChar
    omega
  rw [toNat_of_valid valid]
  omega

theorem ascii_of_next {b : UInt8} {rest : Bytes} {c : Char} (found : (next b rest).1 = some c) :
    b < 0x80 ∧ c = Char.ofNat b.toNat ∨ 0x80 ≤ c.toNat := by
  unfold next at found
  cases announced : lead? b with
  | none => simp [announced] at found
  | some lead =>
      have known := sound_leads b.toNat b.toNat_lt
      rw [UInt8.ofNat_toNat, announced, Option.all_some] at known
      rw [announced] at found
      obtain ⟨code, followed, rfl⟩ := Option.map_eq_some_iff.mp found
      obtain ⟨bits, following, low, high⟩ := lead
      cases following with
      | zero =>
          simp only [if_true, Bool.and_eq_true, beq_iff_eq, decide_eq_true_eq] at known
          rw [follow, Option.some.injEq] at followed
          exact .inl ⟨UInt8.lt_iff_toNat_lt.mpr known.2, by rw [← followed, known.1]⟩
      | succ following =>
          have sound := Lead.isSound_of_lead? announced (Nat.succ_ne_zero following)
          obtain ⟨least, most⟩ := Lead.continues_of_isSound sound
          obtain ⟨above, below⟩ := follow_bounds least most (Prod.ext followed rfl)
          exact .inr (toNat_of_bounds sound above below)

theorem toNat_ascii {b : UInt8} (ascii : b < 0x80) : (Char.ofNat b.toNat).toNat = b.toNat := by
  have small : b.toNat < 0x80 := UInt8.lt_iff_toNat_lt.mp ascii
  exact toNat_of_valid (.inl (by omega))

theorem mem_of_mem_decode {bytes : Bytes} {b : UInt8} (ascii : b < 0x80)
    (member : Char.ofNat b.toNat ∈ decode bytes) : b ∈ bytes := by
  have small : (Char.ofNat b.toNat).toNat < 0x80 := by
    rw [toNat_ascii ascii]
    exact UInt8.lt_iff_toNat_lt.mp ascii
  obtain ⟨piece, inside, same⟩ := List.mem_map.mp member
  fun_induction pieces bytes with
  | case1 => cases inside
  | case2 first rest ih =>
      rcases List.mem_cons.mp inside with here | later
      · cases found : (next first rest).1 with
        | none =>
            -- U+FFFD is no ASCII.
            rw [here, found, Option.getD_none] at same
            rw [← same] at small
            exact absurd small (by decide)
        | some c =>
            rw [here, found, Option.getD_some] at same
            rcases ascii_of_next found with ⟨low, rfl⟩ | high
            · have equal := congrArg Char.toNat same
              rw [toNat_ascii low, toNat_ascii ascii, UInt8.toNat_inj] at equal
              exact equal ▸ List.mem_cons_self ..
            · rw [← same] at small
              omega
      · exact List.mem_cons_of_mem _ (List.mem_of_mem_drop (ih (List.mem_map.mpr ⟨piece, later, same⟩) later))

theorem map_getD_of_mapM {pieces : List (Option Char)} {text : Text} (whole : pieces.mapM id = some text) (c : Char) :
    pieces.map (fun piece => piece.getD c) = text := by
  induction pieces generalizing text with
  | nil =>
      cases whole
      rfl
  | cons piece rest ih =>
      simp only [List.mapM_cons, id_eq, Option.bind_eq_bind, Option.bind_eq_some_iff] at whole
      obtain ⟨first, rfl, others, later, same⟩ := whole
      cases same
      rw [List.map_cons, ih later, Option.getD_some]

theorem decode_of_decode? {bytes : Bytes} {text : Text} (whole : decode? bytes = some text) : decode bytes = text :=
  map_getD_of_mapM whole _

section Breaking

variable {bits following : Nat} {low high mark b : UInt8} {rest : Bytes}

theorem follow_append_ascii (least : following ≠ 0 → 0x80 ≤ low) (ascii : mark < 0x80) (after : Bytes) :
    follow bits low high following (rest ++ mark :: after) = follow bits low high following rest := by
  induction following generalizing bits low high rest with
  | zero => rw [follow, follow]
  | succ following ih =>
      have above := least (Nat.succ_ne_zero following)
      cases rest with
      | nil =>
          have outside : ¬ low ≤ mark := UInt8.not_le.mpr (UInt8.lt_of_lt_of_le ascii above)
          simp [follow, outside]
      | cons first rest =>
          rw [List.cons_append, follow, follow, ih fun _ => UInt8.le_refl 0x80]

theorem follow_snd_le : (follow bits low high following rest).2 ≤ rest.length := by
  induction following generalizing bits low high rest with
  | zero => exact Nat.zero_le _
  | succ following ih =>
      cases rest with
      | nil => exact Nat.zero_le _
      | cons first rest =>
          rw [follow]
          split
          · exact Nat.succ_le_succ ih
          · exact Nat.zero_le _

theorem next_append_ascii (ascii : mark < 0x80) (after : Bytes) : next b (rest ++ mark :: after) = next b rest := by
  unfold next
  cases announced : lead? b with
  | none => rfl
  | some lead =>
      have least (longer : lead.following ≠ 0) : 0x80 ≤ lead.low :=
        (Lead.continues_of_isSound (Lead.isSound_of_lead? announced longer)).1
      simp only [follow_append_ascii least ascii after]

theorem next_snd_le : (next b rest).2 ≤ rest.length := by
  unfold next
  split
  · exact Nat.zero_le _
  · exact follow_snd_le

/-- What stands in front of a character of ASCII is read as if it were the end. -/
theorem pieces_append_ascii (ascii : mark < 0x80) (before after : Bytes) :
    pieces (before ++ mark :: after) = pieces before ++ some (Char.ofNat mark.toNat) :: pieces after := by
  fun_induction pieces before with
  | case1 =>
      have announced : lead? mark = some ⟨mark.toNat, 0, 0x80, 0xBF⟩ := by rw [lead?, if_pos ascii]
      have followed : follow mark.toNat 0x80 0xBF 0 after = (some mark.toNat, 0) := by rw [follow]
      exact pieces_of_lead announced followed
  | case2 b rest ih =>
      rw [List.cons_append, pieces_cons, next_append_ascii ascii, List.drop_append_of_le_length next_snd_le, ih,
        List.cons_append]

theorem decode_append_ascii (ascii : mark < 0x80) (before after : Bytes) :
    decode (before ++ mark :: after) = decode before ++ Char.ofNat mark.toNat :: decode after := by
  simp [decode, pieces_append_ascii ascii]

theorem decode?_concat_ascii (ascii : mark < 0x80) (before : Bytes) :
    decode? (before ++ [mark]) = (decode? before).map fun text => text ++ [Char.ofNat mark.toNat] := by
  rw [decode?, decode?, pieces_append_ascii ascii, List.mapM_append]
  cases (pieces before).mapM id <;> simp [pieces]

end Breaking

end CommitLanes.Utf8
