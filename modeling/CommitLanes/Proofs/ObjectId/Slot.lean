import CommitLanes.ObjectId.Slot
import CommitLanes.Proofs.ObjectId.Digits
import CommitLanes.Proofs.Text.Order

/-! An id as it is kept tells no more than its bytes.

Equality and order go over the whole field. They are those of the bytes that count, and of the written
id, because whatever makes an id leaves zeros behind its digest.
-/

set_option autoImplicit false

namespace CommitLanes

namespace ObjectId

namespace Slot

/-- Everything an id can come from. -/
inductive Built : Slot → Prop
  | hex {hash : HashFunction} {digits : Bytes} {slot : Slot} (read : ofHex hash digits = .ok slot) : Built slot
  | text {text : Text} {slot : Slot} (read : ofText text = .ok slot) : Built slot
  | bytes {bytes : Bytes} {slot : Slot} (taken : ofBytes? bytes = some slot) : Built slot
  | digest (digest : Vector UInt8 20) : Built (ofDigest digest)
  | workingTree : Built (reserved 0x11)
  | index : Built (reserved 0x22)

theorem toList_write {bytes : Bytes} (fits : bytes.length ≤ 32) (field : Vector UInt8 32) :
    (write field bytes).toList = bytes ++ field.toList.drop bytes.length := by
  refine List.ext_getElem ?_ fun place inside _ => ?_
  · rw [Vector.length_toList, List.length_append, List.length_drop, Vector.length_toList, Nat.add_sub_cancel' fits]
  · simp only [Vector.getElem_toList, write, Vector.getElem_mapIdx]
    by_cases front : place < bytes.length
    · rw [List.getElem_append_left front, List.getElem?_eq_getElem front, Option.getD_some]
    · have behind := Nat.not_lt.mp front
      rw [List.getElem_append_right behind, List.getElem?_eq_none behind, Option.getD_none, List.getElem_drop,
        Vector.getElem_toList]
      congr
      omega

end Slot

section Digest

variable {id other : ObjectId} {hash : HashFunction} {digits bytes : Bytes}

theorem length_le (id : ObjectId) : id.bytes.length ≤ 32 := by
  rcases id.known_length with short | long <;> omega

theorem toNat_length (id : ObjectId) : (UInt8.ofNat id.bytes.length).toNat = id.bytes.length :=
  Utf8.toNat_ofNat (Nat.lt_of_le_of_lt id.length_le (by decide))

theorem field_slot (id : ObjectId) : id.slot.field.toList = id.padded := by
  rw [slot, Slot.keep, Slot.toList_write id.length_le, Slot.zeros, Vector.toList_replicate, List.drop_replicate, padded]

theorem bytes_slot (id : ObjectId) : id.slot.bytes = id.bytes := by
  rw [Slot.bytes, field_slot, padded]
  show List.take (UInt8.ofNat id.bytes.length).toNat _ = _
  rw [toNat_length, List.take_left]

theorem hex_slot (id : ObjectId) : id.slot.hex = id.hex := by
  rw [Slot.hex, bytes_slot, hex]

theorem compare_used (id other : ObjectId) :
    compare id.slot.used other.slot.used = compare id.bytes.length other.bytes.length :=
  compare_ofNat (Nat.lt_of_le_of_lt id.length_le (by decide)) (Nat.lt_of_le_of_lt other.length_le (by decide))

theorem order_slot (id other : ObjectId) : id.slot.order other.slot = id.order other := by
  rw [Slot.order, order, field_slot, field_slot, compare_used]

theorem ofHex_slot (hash : HashFunction) (digits : Bytes) :
    Slot.ofHex hash digits = (ofHex hash digits).map slot := by
  rw [Slot.ofHex, ofHex]
  by_cases fits : digits.length = hash.hexLength
  case neg =>
    rw [if_pos fits, dif_neg fits]
    rfl
  rw [if_neg (not_not_intro fits), dif_pos fits]
  split
  next refused =>
    split
    next => rfl
    next bytes read =>
      rw [refused] at read
      cases read
  next bytes read =>
    split
    next refused =>
      rw [read] at refused
      cases refused
    next other again =>
      obtain rfl : bytes = other := Option.some.inj (read.symm.trans again)
      have width : hash.byteLength = bytes.length := by
        have length := Hex.length_of_decode read
        rw [fits, HashFunction.hexLength] at length
        omega
      rw [width]
      rfl

theorem ofText_slot (text : Text) : Slot.ofText text = (ofText text).map slot :=
  ofHex_slot _ text.utf8

theorem ofBytes?_slot (bytes : Bytes) : Slot.ofBytes? bytes = (ofBytes? bytes).map slot := by
  rw [Slot.ofBytes?, ofBytes?]
  by_cases known : bytes.length = 20 ∨ bytes.length = 32
  · have either : ¬ (bytes.length ≠ HashFunction.sha1.byteLength ∧ bytes.length ≠ HashFunction.sha256.byteLength) :=
      fun neither => known.elim neither.1 neither.2
    rw [dif_pos known, if_neg either]
    rfl
  · have neither : bytes.length ≠ HashFunction.sha1.byteLength ∧ bytes.length ≠ HashFunction.sha256.byteLength :=
      not_or.mp known
    rw [dif_neg known, if_pos neither]
    rfl

theorem exists_of_map_slot {made : Except Fault ObjectId} {slot : Slot} (same : made.map ObjectId.slot = .ok slot) :
    ∃ id : ObjectId, id.slot = slot := by
  cases made with
  | error fault => cases same
  | ok id => exact ⟨id, Except.ok.inj same⟩

theorem built_iff {slot : Slot} : Slot.Built slot ↔ ∃ id : ObjectId, id.slot = slot := by
  constructor
  · intro built
    cases built with
    | hex read =>
        rw [ofHex_slot] at read
        exact exists_of_map_slot read
    | text read =>
        rw [ofText_slot] at read
        exact exists_of_map_slot read
    | bytes taken =>
        rw [ofBytes?_slot] at taken
        obtain ⟨id, -, same⟩ := Option.map_eq_some_iff.mp taken
        exact ⟨id, same⟩
    | digest digest => exact ⟨⟨digest.toList, .inl digest.length_toList⟩, rfl⟩
    | workingTree => exact ⟨.workingTree, rfl⟩
    | index => exact ⟨.index, rfl⟩
  · rintro ⟨id, rfl⟩
    have made : ofBytes? id.bytes = some id := dif_pos id.known_length
    have taken : Slot.ofBytes? id.bytes = some id.slot := by
      rw [ofBytes?_slot, made]
      rfl
    exact .bytes taken

end Digest

section Order

variable {a b : Bytes} {m n : Nat}

theorem compare_toNat (x y : UInt8) : compare x y = compare x.toNat y.toNat := by
  have numbers := compare_ofNat x.toNat_lt y.toNat_lt
  rwa [UInt8.ofNat_toNat, UInt8.ofNat_toNat] at numbers

theorem compare_succ_succ (m n : Nat) : compare (m + 1) (n + 1) = compare m n := by
  have number (m n : Nat) : compare m n = compareOfLessAndEq m n := rfl
  simp [number, compareOfLessAndEq]

theorem compare_replicate_zero_ne_gt (bytes : Bytes) : compare (List.replicate bytes.length 0) bytes ≠ .gt := by
  induction bytes with
  | nil => exact nofun
  | cons b bytes ih =>
      have least : compare 0 b ≠ .gt := by
        rw [compare_toNat]
        exact Nat.compare_ne_gt.mpr (Nat.zero_le _)
      rw [List.length_cons, List.replicate_succ, List.compare_cons_cons]
      cases first : compare 0 b with
      | lt => exact nofun
      | eq => exact ih
      | gt => exact absurd first least

theorem compare_zeros_ne_gt (even : m = b.length + n) :
    compare (List.replicate m 0) (b ++ List.replicate n 0) ≠ .gt := by
  have least := compare_replicate_zero_ne_gt (b ++ List.replicate n 0)
  rwa [List.length_append, List.length_replicate, ← even] at least

/-- Zeros behind two digests change nothing where the length decides between equal fields. -/
theorem compare_padded (even : a.length + m = b.length + n) :
    (compare (a ++ List.replicate m 0) (b ++ List.replicate n 0)).then (compare a.length b.length) = compare a b := by
  induction a generalizing b with
  | nil =>
      rw [List.length_nil, Nat.zero_add] at even
      have least := compare_zeros_ne_gt even
      rw [List.nil_append]
      cases b with
      | nil =>
          obtain rfl : m = n := by simpa using even
          rw [List.nil_append, Std.ReflOrd.compare_self]
          rfl
      | cons y b =>
          have shorter : compare ([] : Bytes).length (y :: b).length = .lt := Nat.compare_eq_lt.mpr (Nat.succ_pos _)
          rw [shorter]
          cases front : compare (List.replicate m 0) (y :: b ++ List.replicate n 0) with
          | lt => rfl
          | eq => rfl
          | gt => exact absurd front least
  | cons x a ih =>
      cases b with
      | nil =>
          rw [List.length_nil, Nat.zero_add] at even
          have least := compare_zeros_ne_gt even.symm
          have longer : compare (x :: a).length ([] : Bytes).length = .gt := Nat.compare_eq_gt.mpr (Nat.succ_pos _)
          have swapped : compare (x :: a ++ List.replicate m 0) (List.replicate n 0) =
              (compare (List.replicate n 0) (x :: a ++ List.replicate m 0)).swap := Std.OrientedCmp.eq_swap
          rw [longer, List.nil_append, swapped]
          cases front : compare (List.replicate n 0) (x :: a ++ List.replicate m 0) with
          | lt => rfl
          | eq => rfl
          | gt => exact absurd front least
      | cons y b =>
          have shorter : a.length + m = b.length + n := by simpa [Nat.add_right_comm] using even
          rw [List.cons_append, List.cons_append, List.compare_cons_cons, List.compare_cons_cons, List.length_cons,
            List.length_cons, compare_succ_succ, Ordering.then_assoc, ih shorter]

theorem order_eq_compare_bytes (id other : ObjectId) : id.order other = compare id.bytes other.bytes := by
  have first := id.length_le
  have second := other.length_le
  exact compare_padded (by omega)

theorem compare_digit : ∀ first < 16, ∀ second < 16,
    compare (Hex.digit (UInt8.ofNat first)) (Hex.digit (UInt8.ofNat second)) = compare first second := by
  decide +kernel

theorem compare_div_mod (m n : Nat) : (compare (m / 16) (n / 16)).then (compare (m % 16) (n % 16)) = compare m n := by
  rcases Nat.lt_trichotomy m n with less | rfl | greater
  · rw [Nat.compare_eq_lt.mpr less, Ordering.then_eq_lt, Nat.compare_eq_lt, Nat.compare_eq_eq, Nat.compare_eq_lt]
    omega
  · rw [Std.ReflOrd.compare_self, Std.ReflOrd.compare_self, Std.ReflOrd.compare_self]
    rfl
  · rw [Nat.compare_eq_gt.mpr greater, Ordering.then_eq_gt, Nat.compare_eq_gt, Nat.compare_eq_eq, Nat.compare_eq_gt]
    omega

theorem compare_digits (x y : UInt8) :
    (compare (Hex.digit (x / 16)) (Hex.digit (y / 16))).then (compare (Hex.digit (x % 16)) (Hex.digit (y % 16))) =
      compare x y := by
  have high := compare_digit (x / 16).toNat (Hex.high_small x) (y / 16).toNat (Hex.high_small y)
  have low := compare_digit (x % 16).toNat (Hex.low_small x) (y % 16).toNat (Hex.low_small y)
  rw [UInt8.ofNat_toNat, UInt8.ofNat_toNat] at high low
  rw [high, low, compare_toNat, UInt8.toNat_div, UInt8.toNat_div, UInt8.toNat_mod, UInt8.toNat_mod]
  exact compare_div_mod x.toNat y.toNat

/-- Digits are in the order of what they are worth. -/
theorem compare_encode (a b : Bytes) : compare (Hex.encode a) (Hex.encode b) = compare a b := by
  induction a generalizing b with
  | nil => cases b <;> rfl
  | cons x a ih =>
      cases b with
      | nil => rfl
      | cons y b =>
          have written (z : UInt8) (rest : Bytes) :
              Hex.encode (z :: rest) = Hex.digit (z / 16) :: Hex.digit (z % 16) :: Hex.encode rest := rfl
          rw [written, written, List.compare_cons_cons, List.compare_cons_cons, ← Ordering.then_assoc, compare_digits, ih,
            List.compare_cons_cons]

end Order

theorem eq_of_bytes {id other : ObjectId} (same : id.bytes = other.bytes) : id = other := by
  cases id
  cases other
  cases same
  rfl

/-- Behind the bytes that count there are zeros. -/
theorem field_slot_behind (id : ObjectId) {place : Nat} (inside : place < 32) (behind : id.slot.used.toNat ≤ place) :
    id.slot.field[place] = 0 := by
  rw [slot, Slot.keep, toNat_length] at behind
  have field : id.slot.field.toList[place]? = some id.slot.field[place] := by simp [inside]
  rw [field_slot, padded, List.getElem?_append_right behind] at field
  exact List.eq_of_mem_replicate (List.mem_of_getElem? field)

theorem exists_hash (id : ObjectId) : ∃ hash : HashFunction, id.bytes.length = hash.byteLength :=
  id.known_length.elim (fun short => ⟨.sha1, short⟩) fun long => ⟨.sha256, long⟩

theorem ofHex_hex {hash : HashFunction} {id : ObjectId} (width : id.bytes.length = hash.byteLength) :
    ofHex hash id.hex.utf8 = .ok id :=
  ofHex_of_spells (digits_hex width) (spells_hex id)

theorem ofText_hex (id : ObjectId) : ofText id.hex = .ok id := by
  have size : id.hex.size = 2 * id.bytes.length := length_hex id
  rw [ofText, size]
  rcases id.known_length with short | long
  · have width : id.bytes.length = HashFunction.sha1.byteLength := short
    rw [short]
    exact ofHex_hex width
  · have width : id.bytes.length = HashFunction.sha256.byteLength := long
    rw [long]
    exact ofHex_hex width

namespace Slot

/-- An id that was built is known by the bytes that count. -/
theorem told_by_bytes :
    (∀ id other : ObjectId, Built id.slot ∧ id.slot.hex = id.hex ∧ id.slot.order other.slot = id.order other) ∧
    (∀ slot, Built slot →
      (∀ place (inside : place < 32), slot.used.toNat ≤ place → slot.field[place] = 0) ∧
      (∃ hash : HashFunction, slot.bytes.length = hash.byteLength ∧ ofHex hash slot.hex.utf8 = .ok slot) ∧
      ofText slot.hex = .ok slot) ∧
    (∀ a b, Built a → Built b →
      (a = b ↔ a.bytes = b.bytes) ∧ a.order b = compare a.bytes b.bytes ∧ a.order b = a.hex.order b.hex) ∧
    ∀ hash digits,
      ((∃ slot, ofHex hash digits = .ok slot) ↔
        digits.length = hash.hexLength ∧ ∀ b ∈ digits, Hex.isDigit b = true) ∧
      ∀ slot, ofHex hash digits = .ok slot → slot.hex.utf8 = digits.map Bytes.toLower := by
  refine ⟨fun id other => ⟨built_iff.mpr ⟨id, rfl⟩, hex_slot id, order_slot id other⟩, ?_, ?_, ?_⟩
  · intro slot built
    obtain ⟨id, rfl⟩ := built_iff.mp built
    obtain ⟨hash, width⟩ := id.exists_hash
    refine ⟨fun place inside => id.field_slot_behind inside, ⟨hash, ?_, ?_⟩, ?_⟩
    · rw [bytes_slot, width]
    · rw [hex_slot, ofHex_slot, ofHex_hex width]
      rfl
    · rw [hex_slot, ofText_slot, ofText_hex]
      rfl
  · intro a b first second
    obtain ⟨id, rfl⟩ := built_iff.mp first
    obtain ⟨other, rfl⟩ := built_iff.mp second
    rw [bytes_slot, bytes_slot, hex_slot, hex_slot, order_slot, order_eq_compare_bytes]
    refine ⟨⟨fun same => ?_, fun same => ?_⟩, rfl, (compare_encode id.bytes other.bytes).symm⟩
    · rw [← bytes_slot, same, bytes_slot]
    · rw [eq_of_bytes same]
  · intro hash digits
    rw [ofHex_slot]
    rcases digits_or_refused hash digits with all | ⟨fault, refused⟩
    · obtain ⟨id, spells, read⟩ := exists_spells all
      rw [read]
      refine ⟨⟨fun _ => ⟨all.length, all.digits⟩, fun _ => ⟨id.slot, rfl⟩⟩, ?_⟩
      intro slot same
      rw [← Except.ok.inj same, hex_slot]
      exact spells
    · rw [ofHex_of_refused refused]
      exact ⟨⟨nofun, fun ⟨length, digit⟩ => absurd ⟨length, digit⟩ refused.not_digits⟩, nofun⟩

/-- The long digest that goes on with zeros fills its field like the short one, and comes behind it. -/
example : let short := List.replicate 20 0x11
    (keep short).field = (keep (short ++ List.replicate 12 0)).field ∧
      (keep short).order (keep (short ++ List.replicate 12 0)) = .lt := by decide +kernel

end Slot

end ObjectId

end CommitLanes
