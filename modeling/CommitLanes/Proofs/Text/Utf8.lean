import CommitLanes.Text.Utf8

/-! UTF-8 is read back as it was written.

A character is read from its bytes whatever comes behind them. None but a character of ASCII
has bytes of ASCII, so that marks of ASCII can be looked for in the bytes.
-/

set_option autoImplicit false

namespace CommitLanes

namespace Utf8

section Bytes

theorem toNat_ofNat {n : Nat} (small : n < 256) : (UInt8.ofNat n).toNat = n := by
  rw [UInt8.toNat_ofNat', Nat.mod_eq_of_lt small]

theorem lead?_ofNat {v : Nat} (small : v < 256) :
    lead? (UInt8.ofNat v) =
      if v < 0x80 then some ⟨v, 0, 0x80, 0xBF⟩
      else if v < 0xC2 then none
      else if v < 0xE0 then some ⟨v - 0xC0, 1, 0x80, 0xBF⟩
      else if v = 0xE0 then some ⟨0, 2, 0xA0, 0xBF⟩
      else if v = 0xED then some ⟨0xD, 2, 0x80, 0x9F⟩
      else if v < 0xF0 then some ⟨v - 0xE0, 2, 0x80, 0xBF⟩
      else if v = 0xF0 then some ⟨0, 3, 0x90, 0xBF⟩
      else if v < 0xF4 then some ⟨v - 0xF0, 3, 0x80, 0xBF⟩
      else if v = 0xF4 then some ⟨4, 3, 0x80, 0x8F⟩
      else none := by
  simp only [lead?, UInt8.lt_iff_toNat_lt, beq_iff_eq, ← UInt8.toNat_inj, toNat_ofNat small]
  rfl

theorem follow_tail {low high : UInt8} {six : Nat} (bits following : Nat) (rest : Bytes)
    (small : six < 64) (above : low.toNat ≤ six + 128) (below : six + 128 ≤ high.toNat) :
    follow bits low high (following + 1) (UInt8.ofNat (six + 128) :: rest) =
      ((follow (bits * 64 + six) 0x80 0xBF following rest).1,
        (follow (bits * 64 + six) 0x80 0xBF following rest).2 + 1) := by
  have number : (UInt8.ofNat (six + 128)).toNat = six + 128 := toNat_ofNat (by omega)
  have inside : low ≤ UInt8.ofNat (six + 128) ∧ UInt8.ofNat (six + 128) ≤ high := by
    rw [UInt8.le_iff_toNat_le, UInt8.le_iff_toNat_le, number]
    exact ⟨above, below⟩
  have low6 : (six + 128) % 64 = six := by omega
  rw [follow, if_pos (by simpa using inside), number, low6]

end Bytes

section Characters

theorem pieces_cons (b : UInt8) (rest : Bytes) :
    pieces (b :: rest) = (next b rest).1 :: pieces (rest.drop (next b rest).2) := by
  rw [pieces]

/-- What a first byte and those that follow it make up, with nothing taken beyond. -/
theorem pieces_of_lead {first : UInt8} {lead : Lead} {code taken : Nat} {rest : Bytes}
    (announced : lead? first = some lead)
    (followed : follow lead.bits lead.low lead.high lead.following rest = (some code, taken)) :
    pieces (first :: rest) = some (Char.ofNat code) :: pieces (rest.drop taken) := by
  rw [pieces_cons, next, announced]
  simp only [followed, Option.map_some]

-- A code of several bytes is taken apart by sixties and fours, the top bits first.
variable {first low high : UInt8} {bits v : Nat}

theorem pieces_of_two (announced : lead? first = some ⟨bits, 1, low, high⟩) (top : bits = v / 64)
    (above : low.toNat ≤ v % 64 + 128) (below : v % 64 + 128 ≤ high.toNat) (rest : Bytes) :
    pieces (first :: UInt8.ofNat (v % 64 + 128) :: rest) = some (Char.ofNat v) :: pieces rest := by
  have joined : bits * 64 + v % 64 = v := by omega
  have followed : follow bits low high 1 (UInt8.ofNat (v % 64 + 128) :: rest) = (some v, 1) := by
    rw [follow_tail _ _ _ (Nat.mod_lt _ (by decide)) above below, follow, joined]
  exact pieces_of_lead announced followed

theorem pieces_of_three (announced : lead? first = some ⟨bits, 2, low, high⟩) (top : bits = v / 64 / 64)
    (above : low.toNat ≤ v / 64 % 64 + 128) (below : v / 64 % 64 + 128 ≤ high.toNat) (rest : Bytes) :
    pieces (first :: UInt8.ofNat (v / 64 % 64 + 128) :: UInt8.ofNat (v % 64 + 128) :: rest) =
      some (Char.ofNat v) :: pieces rest := by
  have joined : (bits * 64 + v / 64 % 64) * 64 + v % 64 = v := by omega
  have followed : follow bits low high 2
      (UInt8.ofNat (v / 64 % 64 + 128) :: UInt8.ofNat (v % 64 + 128) :: rest) = (some v, 2) := by
    rw [follow_tail _ _ _ (Nat.mod_lt _ (by decide)) above below,
      follow_tail _ _ _ (Nat.mod_lt _ (by decide)) (Nat.le_add_left _ _) (show _ ≤ 0xBF by omega),
      follow, joined]
  exact pieces_of_lead announced followed

theorem pieces_of_four (announced : lead? first = some ⟨bits, 3, low, high⟩)
    (top : bits = v / 64 / 64 / 64) (above : low.toNat ≤ v / 64 / 64 % 64 + 128)
    (below : v / 64 / 64 % 64 + 128 ≤ high.toNat) (rest : Bytes) :
    pieces (first :: UInt8.ofNat (v / 64 / 64 % 64 + 128) :: UInt8.ofNat (v / 64 % 64 + 128) ::
      UInt8.ofNat (v % 64 + 128) :: rest) = some (Char.ofNat v) :: pieces rest := by
  have joined : ((bits * 64 + v / 64 / 64 % 64) * 64 + v / 64 % 64) * 64 + v % 64 = v := by omega
  have followed : follow bits low high 3 (UInt8.ofNat (v / 64 / 64 % 64 + 128) ::
      UInt8.ofNat (v / 64 % 64 + 128) :: UInt8.ofNat (v % 64 + 128) :: rest) = (some v, 3) := by
    rw [follow_tail _ _ _ (Nat.mod_lt _ (by decide)) above below,
      follow_tail _ _ _ (Nat.mod_lt _ (by decide)) (Nat.le_add_left _ _) (show _ ≤ 0xBF by omega),
      follow_tail _ _ _ (Nat.mod_lt _ (by decide)) (Nat.le_add_left _ _) (show _ ≤ 0xBF by omega),
      follow, joined]
  exact pieces_of_lead announced followed

theorem pieces_below_800 (least : 0x80 ≤ v) (most : v < 0x800) (rest : Bytes) :
    pieces (UInt8.ofNat (v / 64 % 32 + 192) :: UInt8.ofNat (v % 64 + 128) :: rest) =
      some (Char.ofNat v) :: pieces rest := by
  have announced : lead? (UInt8.ofNat (v / 64 % 32 + 192)) =
      some ⟨v / 64 % 32 + 192 - 0xC0, 1, 0x80, 0xBF⟩ := by
    rw [lead?_ofNat (by omega)]
    simp (disch := omega) only [if_neg, if_pos]
  exact pieces_of_two announced (by omega) (show 0x80 ≤ _ by omega) (show _ ≤ 0xBF by omega) rest

-- The range of the second byte is cut short behind the first byte that could announce an
-- overlong form and behind the one that could announce a surrogate.
theorem pieces_below_10000 (least : 0x800 ≤ v) (most : v < 0x10000) (valid : v < 0xD800 ∨ 0xDFFF < v)
    (rest : Bytes) :
    pieces (UInt8.ofNat (v / 64 / 64 % 16 + 224) :: UInt8.ofNat (v / 64 % 64 + 128) ::
      UInt8.ofNat (v % 64 + 128) :: rest) = some (Char.ofNat v) :: pieces rest := by
  by_cases shortest : v < 0x1000
  · have announced : lead? (UInt8.ofNat (v / 64 / 64 % 16 + 224)) = some ⟨0, 2, 0xA0, 0xBF⟩ := by
      rw [lead?_ofNat (by omega)]
      simp (disch := omega) only [if_neg, if_pos]
    exact pieces_of_three announced (by omega) (show 0xA0 ≤ _ by omega) (show _ ≤ 0xBF by omega) rest
  by_cases surrogate : 0xD000 ≤ v ∧ v < 0xE000
  · have announced : lead? (UInt8.ofNat (v / 64 / 64 % 16 + 224)) = some ⟨0xD, 2, 0x80, 0x9F⟩ := by
      rw [lead?_ofNat (by omega)]
      simp (disch := omega) only [if_neg, if_pos]
    exact pieces_of_three announced (by omega) (show 0x80 ≤ _ by omega) (show _ ≤ 0x9F by omega) rest
  · have announced : lead? (UInt8.ofNat (v / 64 / 64 % 16 + 224)) =
        some ⟨v / 64 / 64 % 16 + 224 - 0xE0, 2, 0x80, 0xBF⟩ := by
      rw [lead?_ofNat (by omega)]
      simp (disch := omega) only [if_neg, if_pos]
    exact pieces_of_three announced (by omega) (show 0x80 ≤ _ by omega) (show _ ≤ 0xBF by omega) rest

-- The same behind the first bytes that could announce an overlong form or a code too large.
theorem pieces_from_10000 (least : 0x10000 ≤ v) (most : v < 0x110000) (rest : Bytes) :
    pieces (UInt8.ofNat (v / 64 / 64 / 64 % 8 + 240) :: UInt8.ofNat (v / 64 / 64 % 64 + 128) ::
      UInt8.ofNat (v / 64 % 64 + 128) :: UInt8.ofNat (v % 64 + 128) :: rest) =
        some (Char.ofNat v) :: pieces rest := by
  by_cases shortest : v < 0x40000
  · have announced : lead? (UInt8.ofNat (v / 64 / 64 / 64 % 8 + 240)) = some ⟨0, 3, 0x90, 0xBF⟩ := by
      rw [lead?_ofNat (by omega)]
      simp (disch := omega) only [if_neg, if_pos]
    exact pieces_of_four announced (by omega) (show 0x90 ≤ _ by omega) (show _ ≤ 0xBF by omega) rest
  by_cases longest : 0x100000 ≤ v
  · have announced : lead? (UInt8.ofNat (v / 64 / 64 / 64 % 8 + 240)) = some ⟨4, 3, 0x80, 0x8F⟩ := by
      rw [lead?_ofNat (by omega)]
      simp (disch := omega) only [if_neg, if_pos]
    exact pieces_of_four announced (by omega) (show 0x80 ≤ _ by omega) (show _ ≤ 0x8F by omega) rest
  · have announced : lead? (UInt8.ofNat (v / 64 / 64 / 64 % 8 + 240)) =
        some ⟨v / 64 / 64 / 64 % 8 + 240 - 0xF0, 3, 0x80, 0xBF⟩ := by
      rw [lead?_ofNat (by omega)]
      simp (disch := omega) only [if_neg, if_pos]
    exact pieces_of_four announced (by omega) (show 0x80 ≤ _ by omega) (show _ ≤ 0xBF by omega) rest

/-- The bytes of a character are read as that character, and none of what follows is taken. -/
theorem pieces_utf8EncodeChar (c : Char) (rest : Bytes) :
    pieces (String.utf8EncodeChar c ++ rest) = some c :: pieces rest := by
  have back : Char.ofNat c.val.toNat = c := Char.ofNat_toNat c
  have valid : c.val.toNat < 0xD800 ∨ 0xDFFF < c.val.toNat ∧ c.val.toNat < 0x110000 := c.valid
  unfold String.utf8EncodeChar
  generalize c.val.toNat = v at back valid
  rw [← back]
  simp only []
  split
  next ascii =>
    have announced : lead? (UInt8.ofNat v) = some ⟨v, 0, 0x80, 0xBF⟩ := by
      rw [lead?_ofNat (by omega), if_pos (by omega)]
    have followed : follow v 0x80 0xBF 0 rest = (some v, 0) := by rw [follow]
    exact pieces_of_lead announced followed
  split
  next two => exact pieces_below_800 (by omega) (by omega) rest
  split
  next three =>
    rw [show v / 4096 = v / 64 / 64 by omega]
    exact pieces_below_10000 (by omega) (by omega) (by omega) rest
  next four =>
    rw [show v / 262144 = v / 64 / 64 / 64 by omega, show v / 4096 = v / 64 / 64 by omega]
    exact pieces_from_10000 (by omega) (by omega) rest

end Characters

theorem pieces_utf8 (text : Text) : pieces text.utf8 = text.map some := by
  induction text with
  | nil => simp [pieces]
  | cons c rest ih => 
      rw [Text.utf8, List.flatMap_cons, pieces_utf8EncodeChar, ← Text.utf8, ih, List.map_cons]

theorem decode?_utf8 (text : Text) : decode? text.utf8 = some text := by
  rw [decode?, pieces_utf8]
  induction text with
  | nil => rfl
  | cons c rest ih =>
      rw [List.map_cons, List.mapM_cons, ih]
      rfl

theorem decode_utf8 (text : Text) : decode text.utf8 = text := by
  rw [decode, pieces_utf8, List.map_map]
  exact List.map_id _

end Utf8

namespace Text

theorem eq_of_mem_utf8EncodeChar {c : Char} {b : UInt8} (member : b ∈ String.utf8EncodeChar c)
    (ascii : b < 0x80) : c = Char.ofNat b.toNat := by
  have back : Char.ofNat c.val.toNat = c := Char.ofNat_toNat c
  have valid : c.val.toNat < 0xD800 ∨ 0xDFFF < c.val.toNat ∧ c.val.toNat < 0x110000 := c.valid
  unfold String.utf8EncodeChar at member
  generalize c.val.toNat = v at back valid member
  rw [← back]
  -- A character of several bytes has none below 0x80.
  have high {n : Nat} (least : 0x80 ≤ n) (most : n < 256) (same : b = UInt8.ofNat n) : False := by
    rw [same, UInt8.lt_iff_toNat_lt, Utf8.toNat_ofNat most] at ascii
    exact absurd ascii (Nat.not_lt.mpr least)
  simp only [] at member
  split at member
  next one =>
    rw [List.mem_singleton.mp member, Utf8.toNat_ofNat (by omega)]
  split at member
  next two =>
    simp only [List.mem_cons, List.not_mem_nil, or_false] at member
    rcases member with same | same <;> exact (high (by omega) (by omega) same).elim
  split at member
  next three =>
    simp only [List.mem_cons, List.not_mem_nil, or_false] at member
    rcases member with same | same | same <;> exact (high (by omega) (by omega) same).elim
  next four =>
    simp only [List.mem_cons, List.not_mem_nil, or_false] at member
    rcases member with same | same | same | same <;> exact (high (by omega) (by omega) same).elim

theorem mem_of_mem_utf8 {text : Text} {b : UInt8} (member : b ∈ text.utf8) (ascii : b < 0x80) :
    Char.ofNat b.toNat ∈ text := by
  obtain ⟨c, here, inside⟩ := List.mem_flatMap.mp member
  rwa [← eq_of_mem_utf8EncodeChar inside ascii]

end Text

end CommitLanes
