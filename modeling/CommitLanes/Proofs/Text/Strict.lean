import CommitLanes.Proofs.Text.Ascii

/-! The strict reading of UTF-8 accepts what was written and nothing else.

Every character has one written form. The announcement of a first byte keeps out the overlong
forms, so the bytes that make up a character are those it would be written with.
-/

set_option autoImplicit false

namespace CommitLanes.Utf8

/-- The first byte is the one that a code of so many bytes is written with, and the codes that it
announces need as many. -/
def Lead.isTight (lead : Lead) (value : Nat) : Bool :=
  match lead.following with
  | 0 => lead.bits == value && value < 0x80
  | 1 => lead.bits + 192 == value && lead.bits < 32 && 0x80 ≤ lead.least
  | 2 => lead.bits + 224 == value && lead.bits < 16 && 0x800 ≤ lead.least
  | 3 => lead.bits + 240 == value && lead.bits < 8 && 0x10000 ≤ lead.least
  | _ => false

theorem tight_leads : ∀ value < 256, (lead? (UInt8.ofNat value)).all fun lead => lead.isTight value := by
  decide +kernel

section Following

variable {bits following code taken : Nat} {low high : UInt8} {rest : Bytes}

theorem exists_six_of_follow (least : 0x80 ≤ low) (most : high ≤ 0xBF)
    (found : follow bits low high (following + 1) rest = (some code, taken)) :
    ∃ six later more, six < 64 ∧ rest = UInt8.ofNat (six + 128) :: later ∧ taken = more + 1 ∧
      follow (bits * 64 + six) 0x80 0xBF following later = (some code, more) := by
  cases rest with
  | nil => simp [follow] at found
  | cons b later =>
      rw [follow] at found
      split at found
      next inside =>
        rw [Bool.and_eq_true, decide_eq_true_eq, decide_eq_true_eq] at inside
        obtain ⟨given, rfl⟩ := Prod.mk.inj found
        have above := UInt8.le_iff_toNat_le.mp (UInt8.le_trans least inside.1)
        have below := UInt8.le_iff_toNat_le.mp (UInt8.le_trans inside.2 most)
        have first : (0x80 : UInt8).toNat = 128 := rfl
        have last : (0xBF : UInt8).toNat = 191 := rfl
        have number : b.toNat % 64 + 128 = b.toNat := by omega
        refine ⟨b.toNat % 64, later, _, Nat.mod_lt _ (by decide), ?_, rfl, Prod.ext given rfl⟩
        rw [number, UInt8.ofNat_toNat]
      next => simp at found

theorem follow_zero (found : follow bits low high 0 rest = (some code, taken)) : code = bits ∧ taken = 0 := by
  rw [follow, Prod.mk.injEq, Option.some.injEq] at found
  exact ⟨found.1.symm, found.2.symm⟩

end Following

section Written

variable {v : Nat} {b : UInt8} {rest : Bytes} {lead : Lead}

theorem utf8EncodeChar_ofNat (valid : v.isValidChar) :
    String.utf8EncodeChar (Char.ofNat v) =
      if v ≤ 0x7F then [UInt8.ofNat v]
      else if v ≤ 0x7FF then [UInt8.ofNat (v / 64 % 32 + 192), UInt8.ofNat (v % 64 + 128)]
      else if v ≤ 0xFFFF then
        [UInt8.ofNat (v / 4096 % 16 + 224), UInt8.ofNat (v / 64 % 64 + 128), UInt8.ofNat (v % 64 + 128)]
      else
        [UInt8.ofNat (v / 262144 % 8 + 240), UInt8.ofNat (v / 4096 % 64 + 128),
          UInt8.ofNat (v / 64 % 64 + 128), UInt8.ofNat (v % 64 + 128)] := by
  have number : (Char.ofNat v).val.toNat = v := toNat_of_valid valid
  rw [String.utf8EncodeChar, number]

theorem written_two {bits six : Nat} (least : 0x80 ≤ bits * 64 + six) (top : bits < 32) (small : six < 64) :
    String.utf8EncodeChar (Char.ofNat (bits * 64 + six)) =
      [UInt8.ofNat (bits + 192), UInt8.ofNat (six + 128)] := by
  have valid : (bits * 64 + six).isValidChar := .inl (by omega)
  rw [utf8EncodeChar_ofNat valid]
  simp (disch := omega) only [if_neg, if_pos]
  rw [show (bits * 64 + six) / 64 % 32 = bits by omega, show (bits * 64 + six) % 64 = six by omega]

theorem written_three {bits second six : Nat} (least : 0x800 ≤ (bits * 64 + second) * 64 + six)
    (top : bits < 16) (inner : second < 64) (small : six < 64)
    (valid : ((bits * 64 + second) * 64 + six).isValidChar) :
    String.utf8EncodeChar (Char.ofNat ((bits * 64 + second) * 64 + six)) =
      [UInt8.ofNat (bits + 224), UInt8.ofNat (second + 128), UInt8.ofNat (six + 128)] := by
  rw [utf8EncodeChar_ofNat valid]
  generalize joined : (bits * 64 + second) * 64 + six = v at least
  simp (disch := omega) only [if_neg, if_pos]
  rw [show v / 4096 % 16 = bits by omega, show v / 64 % 64 = second by omega, show v % 64 = six by omega]

theorem written_four {bits second third six : Nat}
    (least : 0x10000 ≤ ((bits * 64 + second) * 64 + third) * 64 + six) (top : bits < 8) (inner : second < 64)
    (outer : third < 64) (small : six < 64)
    (valid : (((bits * 64 + second) * 64 + third) * 64 + six).isValidChar) :
    String.utf8EncodeChar (Char.ofNat (((bits * 64 + second) * 64 + third) * 64 + six)) =
      [UInt8.ofNat (bits + 240), UInt8.ofNat (second + 128), UInt8.ofNat (third + 128),
        UInt8.ofNat (six + 128)] := by
  rw [utf8EncodeChar_ofNat valid]
  generalize joined : ((bits * 64 + second) * 64 + third) * 64 + six = v at least
  simp (disch := omega) only [if_neg]
  rw [show v / 262144 % 8 = bits by omega, show v / 4096 % 64 = second by omega,
    show v / 64 % 64 = third by omega, show v % 64 = six by omega]

theorem valid_of_bounds (sound : lead.isSound = true) (least : lead.least ≤ v) (most : v < lead.beyond) :
    v.isValidChar := by
  simp only [Lead.isSound, Bool.and_eq_true, Bool.or_eq_true, decide_eq_true_eq] at sound
  unfold Nat.isValidChar
  omega

/-- The bytes that are read as a code are those it is written with. -/
theorem written_of_follow {taken : Nat} (sound : lead.following ≠ 0 → lead.isSound = true)
    (tight : lead.isTight b.toNat = true)
    (followed : follow lead.bits lead.low lead.high lead.following rest = (some v, taken)) :
    b :: rest = String.utf8EncodeChar (Char.ofNat v) ++ rest.drop taken := by
  have byte : UInt8.ofNat b.toNat = b := UInt8.ofNat_toNat ..
  obtain ⟨bits, following, low, high⟩ := lead
  dsimp only at sound followed
  cases following with
  | zero =>
      obtain ⟨rfl, rfl⟩ := follow_zero followed
      simp only [Lead.isTight, Bool.and_eq_true, beq_iff_eq, decide_eq_true_eq] at tight
      have valid : v.isValidChar := .inl (by omega)
      rw [utf8EncodeChar_ofNat valid, if_pos (by omega), tight.1, byte]
      rfl
  | succ following =>
      have sound := sound (Nat.succ_ne_zero _)
      obtain ⟨least, most⟩ := Lead.continues_of_isSound sound
      obtain ⟨lower, upper⟩ := follow_bounds least most followed
      have valid := valid_of_bounds sound lower upper
      obtain ⟨second, later, more, inner, rfl, rfl, behind⟩ := exists_six_of_follow least most followed
      -- How many bytes are announced decides which form it is.
      rcases following with _ | _ | _ | following
      · obtain ⟨rfl, rfl⟩ := follow_zero behind
        simp only [Lead.isTight, Bool.and_eq_true, beq_iff_eq, decide_eq_true_eq] at tight
        obtain ⟨⟨first, top⟩, enough⟩ := tight
        rw [written_two (Nat.le_trans enough lower) top inner, first, byte]
        rfl
      · obtain ⟨third, behindThird, rest3, outer, rfl, rfl, last⟩ :=
          exists_six_of_follow (UInt8.le_refl 0x80) (UInt8.le_refl 0xBF) behind
        obtain ⟨rfl, rfl⟩ := follow_zero last
        simp only [Lead.isTight, Bool.and_eq_true, beq_iff_eq, decide_eq_true_eq] at tight
        obtain ⟨⟨first, top⟩, enough⟩ := tight
        rw [written_three (Nat.le_trans enough lower) top inner outer valid, first, byte]
        rfl
      · obtain ⟨third, behindThird, rest3, outer, rfl, rfl, further⟩ :=
          exists_six_of_follow (UInt8.le_refl 0x80) (UInt8.le_refl 0xBF) behind
        obtain ⟨fourth, behindFourth, rest4, small, rfl, rfl, last⟩ :=
          exists_six_of_follow (UInt8.le_refl 0x80) (UInt8.le_refl 0xBF) further
        obtain ⟨rfl, rfl⟩ := follow_zero last
        simp only [Lead.isTight, Bool.and_eq_true, beq_iff_eq, decide_eq_true_eq] at tight
        obtain ⟨⟨first, top⟩, enough⟩ := tight
        rw [written_four (Nat.le_trans enough lower) top inner outer small valid, first, byte]
        rfl
      · simp [Lead.isTight] at tight

theorem written_of_next {c : Char} (found : (next b rest).1 = some c) :
    b :: rest = String.utf8EncodeChar c ++ rest.drop (next b rest).2 := by
  unfold next at found ⊢
  cases announced : lead? b with
  | none => simp [announced] at found
  | some lead =>
      have tight := tight_leads b.toNat b.toNat_lt
      rw [UInt8.ofNat_toNat, announced, Option.all_some] at tight
      rw [announced] at found
      obtain ⟨code, followed, rfl⟩ := Option.map_eq_some_iff.mp found
      exact written_of_follow (Lead.isSound_of_lead? announced) tight (Prod.ext followed rfl)

end Written

theorem eq_map_some_of_mapM {pieces : List (Option Char)} {text : Text} (whole : pieces.mapM id = some text) :
    pieces = text.map some := by
  induction pieces generalizing text with
  | nil =>
      cases whole
      rfl
  | cons piece rest ih =>
      simp only [List.mapM_cons, id_eq, Option.bind_eq_bind, Option.bind_eq_some_iff] at whole
      obtain ⟨first, rfl, others, later, same⟩ := whole
      cases same
      rw [List.map_cons, ih later]

theorem eq_utf8_of_pieces {bytes : Bytes} {text : Text} (whole : pieces bytes = text.map some) : bytes = text.utf8 := by
  fun_induction pieces bytes generalizing text with
  | case1 =>
      rw [List.map_eq_nil_iff.mp whole.symm]
      rfl
  | case2 b rest ih =>
      obtain ⟨c, others, rfl, found, later⟩ := List.map_eq_cons_iff.mp whole.symm
      rw [written_of_next found.symm, ih later.symm]
      rfl

theorem decode?_eq_some_iff {bytes : Bytes} {text : Text} : decode? bytes = some text ↔ bytes = text.utf8 := by
  constructor
  · intro whole
    exact eq_utf8_of_pieces (eq_map_some_of_mapM whole)
  · rintro rfl
    exact decode?_utf8 text

end CommitLanes.Utf8
