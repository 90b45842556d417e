import CommitLanes.Commit.Message
import CommitLanes.Proofs.Pieces
import CommitLanes.Proofs.Text.Ascii
import CommitLanes.Proofs.Text.Trim

/-! Lines that end in a carriage return and a newline.

A character of ASCII is read for itself wherever it stands, and breaks off whatever is malformed in
front of it. So it makes no difference whether line ends are changed before decoding or after it.
To trimming a carriage return is a blank like the newline.
-/

set_option autoImplicit false

namespace CommitLanes

namespace Pieces

variable {α : Type} {sep : α → Bool} {sign : α} {text : List α}

def announce (sep : α → Bool) (sign : α) (text : List α) : List α :=
  text.flatMap fun a => if sep a then [sign, a] else [a]

theorem announce_append (a b : List α) : announce sep sign (a ++ b) = announce sep sign a ++ announce sep sign b :=
  List.flatMap_append

theorem announce_cons {mark : α} (isMark : sep mark = true) (text : List α) :
    announce sep sign (mark :: text) = sign :: mark :: announce sep sign text := by
  rw [announce, List.flatMap_cons, if_pos isMark]
  rfl

theorem announce_cons_of_plain {a : α} (plain : sep a = false) (text : List α) :
    announce sep sign (a :: text) = a :: announce sep sign text := by
  rw [announce, List.flatMap_cons, plain]
  rfl

theorem announce_of_clear (clear : ∀ a ∈ text, sep a = false) : announce sep sign text = text := by
  induction text with
  | nil => rfl
  | cons a text ih =>
      obtain ⟨plain, clear⟩ := List.forall_mem_cons.mp clear
      rw [announce_cons_of_plain plain, ih clear]

theorem announce_eq_nil_iff : announce sep sign text = [] ↔ text = [] := by
  rw [announce, List.flatMap_eq_nil_iff]
  constructor
  · intro empty
    cases text with
    | nil => rfl
    | cons a text =>
        have here := empty a (List.mem_cons_self ..)
        split at here <;> cases here
  · rintro rfl
    exact fun _ member => nomatch member

/-- A sign that is no separator belongs to the piece in front of the separator. -/
theorem cut_announce (plain : sep sign = false) (text : List α) :
    cut sep (announce sep sign text) =
      (cut sep text).map fun parts => (parts.1 ++ [sign], announce sep sign parts.2) := by
  cases found : cut sep text with
  | none => rw [announce_of_clear (cut_eq_none_iff.mp found), found, Option.map_none]
  | some parts =>
      obtain ⟨before, after⟩ := parts
      obtain ⟨mark, isMark, rfl, clear⟩ := eq_of_cut found
      have longer : ∀ a ∈ before ++ [sign], sep a = false := by
        simpa [or_imp, forall_and] using ⟨clear, plain⟩
      have cut := cut_of_clear longer isMark (announce sep sign after)
      rw [List.append_assoc, List.singleton_append] at cut
      rw [announce_append, announce_of_clear clear, announce_cons isMark, cut, Option.map_some]

end Pieces

namespace Bytes

def carriageReturn : UInt8 :=
  0x0D

def crlf (bytes : Bytes) : Bytes :=
  Pieces.announce isNewline carriageReturn bytes

end Bytes

namespace Text

def crlf (text : Text) : Text :=
  Pieces.announce Message.isNewline '\r' text

end Text

namespace Utf8

theorem clear_decode {line : Bytes} (clear : ∀ b ∈ line, Bytes.isNewline b = false) :
    ∀ c ∈ decode line, Message.isNewline c = false := by
  intro c member
  refine decide_eq_false fun same => ?_
  have inside : Bytes.newline ∈ line := mem_of_mem_decode (by decide) (same ▸ member)
  exact absurd (clear _ inside) (by decide)

theorem decode_crlf (bytes : Bytes) : decode bytes.crlf = (decode bytes).crlf := by
  cases found : Pieces.cut Bytes.isNewline bytes with
  | none =>
      have clear := Pieces.cut_eq_none_iff.mp found
      rw [Bytes.crlf, Text.crlf, Pieces.announce_of_clear clear, Pieces.announce_of_clear (clear_decode clear)]
  | some parts =>
      obtain ⟨line, rest⟩ := parts
      obtain ⟨mark, isMark, same, clear⟩ := Pieces.eq_of_cut found
      obtain rfl : mark = Bytes.newline := eq_of_beq isMark
      have written : bytes.crlf = line ++ Bytes.carriageReturn :: ([] ++ Bytes.newline :: Bytes.crlf rest) := by
        rw [same, Bytes.crlf, Pieces.announce_append, Pieces.announce_of_clear clear, Pieces.announce_cons isMark]
        rfl
      have read : (decode bytes).crlf = decode line ++ '\r' :: '\n' :: (decode rest).crlf := by
        rw [same, decode_append_ascii (by decide), Text.crlf, Pieces.announce_append,
          Pieces.announce_of_clear (clear_decode clear)]
        exact congrArg (decode line ++ ·) (Pieces.announce_cons (by decide) (decode rest))
      have empty : decode [] = [] := decode_utf8 []
      rw [written, read, decode_append_ascii (by decide), decode_append_ascii (by decide), empty, decode_crlf rest]
      rfl
  termination_by bytes.length
  decreasing_by exact Pieces.length_of_cut found

end Utf8

namespace Text

theorem trimStart_crlf (text : Text) : trimStart text.crlf = (trimStart text).crlf := by
  induction text with
  | nil => rfl
  | cons c text ih =>
      cases newline : Message.isNewline c with
      | true =>
          obtain rfl : c = '\n' := of_decide_eq_true newline
          rw [crlf, Pieces.announce_cons newline]
          exact ih
      | false =>
          rw [crlf, Pieces.announce_cons_of_plain newline]
          cases blank : isBlank c with
          | true =>
              rw [trimStart, List.dropWhile_cons_of_pos blank, trimStart, List.dropWhile_cons_of_pos blank]
              exact ih
          | false =>
              have solid : ¬ isBlank c = true := by simp [blank]
              rw [trimStart, List.dropWhile_cons_of_neg solid, trimStart, List.dropWhile_cons_of_neg solid, crlf,
                Pieces.announce_cons_of_plain newline]

theorem trimEnd_crlf (text : Text) : trimEnd text.crlf = (trimEnd text).crlf := by
  induction text using List.reverseRecOn with
  | nil => rfl
  | append_singleton text c ih =>
      rw [crlf, Pieces.announce_append]
      cases newline : Message.isNewline c with
      | true =>
          obtain rfl : c = '\n' := of_decide_eq_true newline
          have written : Pieces.announce Message.isNewline '\r' ['\n'] = ['\r'] ++ ['\n'] := rfl
          rw [written, ← List.append_assoc, trimEnd_concat_of_blank (by decide), trimEnd_concat_of_blank (by decide),
            trimEnd_concat_of_blank (by decide)]
          exact ih
      | false =>
          have written : Pieces.announce Message.isNewline '\r' [c] = [c] := Pieces.announce_cons_of_plain newline []
          rw [written]
          cases blank : isBlank c with
          | true =>
              rw [trimEnd_concat_of_blank blank, trimEnd_concat_of_blank blank]
              exact ih
          | false =>
              rw [trimEnd_concat_of_solid blank, trimEnd_concat_of_solid blank, crlf, Pieces.announce_append, written]

theorem trim_crlf (text : Text) : trim text.crlf = (trim text).crlf := by
  rw [trim, trimStart_crlf, trimEnd_crlf, trim]

end Text

end CommitLanes
