import CommitLanes.Proofs.Commit.Message
import CommitLanes.Proofs.Log.Grammar
import CommitLanes.Proofs.Text.LineEnd

/-! Records with either kind of line end.

A carriage return in front of every newline stands at the end of the header, of each field and of
each line of the message. Wherever it stands it is trimmed off or a blank, but for the body, which
keeps the line ends it has.
-/

set_option autoImplicit false

namespace CommitLanes

namespace Message

theorem cut_crlf (message : Text) :
    Pieces.cut isNewline message.crlf =
      (Pieces.cut isNewline message).map fun parts => (parts.1 ++ ['\r'], Text.crlf parts.2) :=
  Pieces.cut_announce (by decide) message

theorem trimEnd_firstLine_crlf (message : Text) :
    Text.trimEnd (firstLine message.crlf).1 = Text.trimEnd (firstLine message).1 := by
  rw [firstLine, firstLine, cut_crlf]
  cases found : Pieces.cut isNewline message with
  | none =>
      have clear := Pieces.cut_eq_none_iff.mp found
      rw [Option.map_none, Option.getD_none, Option.getD_none, Text.crlf, Pieces.announce_of_clear clear]
  | some parts =>
      rw [Option.map_some, Option.getD_some, Option.getD_some, Text.trimEnd_concat_of_blank (by decide)]

theorem rest_firstLine_crlf (message : Text) : (firstLine message.crlf).2 = Text.crlf (firstLine message).2 := by
  rw [firstLine, firstLine, cut_crlf]
  cases Pieces.cut isNewline message <;> rfl

theorem afterBlankLine_crlf (message : Text) : afterBlankLine message.crlf = (afterBlankLine message).map Text.crlf := by
  fun_induction afterBlankLine message with
  | case1 message uncut =>
      have cut := cut_crlf message
      rw [uncut, Option.map_none] at cut
      rw [afterBlankLine, cut]
      rfl
  | case2 message line rest found blank =>
      have cut := cut_crlf message
      rw [found, Option.map_some] at cut
      rw [afterBlankLine_of_cut cut, Text.allBlank_concat_of_blank (by decide), if_pos blank]
      rfl
  | case3 message line rest found full ih =>
      have cut := cut_crlf message
      rw [found, Option.map_some] at cut
      rw [afterBlankLine_of_cut cut, Text.allBlank_concat_of_blank (by decide), if_neg full]
      exact ih

theorem split_crlf (message : Text) : split message.crlf = ((split message).1, (split message).2.map Text.crlf) := by
  rw [split_eq, split_eq, trimEnd_firstLine_crlf, rest_firstLine_crlf, afterBlankLine_crlf]
  cases afterBlankLine (firstLine message).2 with
  | none => rfl
  | some rest =>
      rw [Option.map_some, Option.map_some, Option.map_some, Text.trim_crlf]
      cases Text.trim rest with
      | nil => rfl
      | cons c body =>
          have full : Text.crlf (c :: body) ≠ [] := fun empty => nomatch Pieces.announce_eq_nil_iff.mp empty
          simp [Option.filter_some, full]

end Message

namespace Log

open Bytes (carriageReturn)

variable {hash : HashFunction} {parts : Parts} {record : Record} {raw : Bytes} {seconds : Int64}

theorem Date.concat (date : Date raw seconds) : Date (raw ++ [carriageReturn]) seconds := by
  obtain ⟨before, number, after, rfl, front, back, numeral⟩ := date
  refine ⟨before, number, after ++ ['\r'], ?_, front, ?_, numeral⟩
  · rw [← List.append_assoc, Text.utf8_append _ ['\r']]
    rfl
  · intro c member
    rcases List.mem_append.mp member with inside | last
    · exact back c inside
    · rw [List.mem_singleton.mp last]
      decide

theorem readLabel_concat (raw : Bytes) : Record.readLabel (raw ++ [carriageReturn]) = Record.readLabel raw := by
  rw [Record.readLabel, Record.readLabel, Utf8.decode?_concat_ascii (by decide), Option.map_map]
  have trimmed : (Text.trim ∘ fun text => text ++ [Char.ofNat carriageReturn.toNat]) = Text.trim :=
    funext fun text => Text.trim_concat_of_blank (by decide) text
  rw [trimmed]

theorem readName_concat (raw : Bytes) :
    Decoder.readName .utf8 (raw ++ [carriageReturn]) = Decoder.readName .utf8 raw := by
  have last : Utf8.decode (raw ++ [carriageReturn]) = Utf8.decode raw ++ ['\r'] := by
    rw [Utf8.decode_append_ascii (by decide)]
    exact congrArg (Utf8.decode raw ++ '\r' :: ·) (Utf8.decode_utf8 [])
  rw [Decoder.readName, Encoding.decode, last, Text.dropEnd_concat, Decoder.readName, Encoding.decode]

namespace Header

variable {header : Header} {id tree : ObjectId} {parents : List ObjectId}

def returned (header : Header) : Header :=
  { header with rest := header.rest ++ [carriageReturn] }

theorem bytes_returned (header : Header) : header.returned.bytes = header.bytes ++ [carriageReturn] := by
  simp [bytes, returned]

theorem WellFormed.returned (shaped : header.WellFormed hash) : header.returned.WellFormed hash := by
  obtain ⟨words, runs, all⟩ := shaped.parents
  exact ⟨⟨shaped.id, shaped.gap, shaped.tree⟩, words, runs.append_gap (by decide), all⟩

theorem Tells.returned (tells : header.Tells id tree parents) : header.returned.Tells id tree parents := by
  obtain ⟨words, runs, all⟩ := tells.parents
  exact ⟨tells.id, tells.tree, words, runs.append_gap (by decide), all⟩

end Header

/-- The parts with a carriage return at the end of each line. What nothing closes is no line. -/
def Parts.crlf (parts : Parts) : Parts where
  header := parts.header.returned
  author := parts.author ++ [carriageReturn]
  authorEmail := parts.authorEmail ++ [carriageReturn]
  authorDate := parts.authorDate ++ [carriageReturn]
  committer := parts.committer ++ [carriageReturn]
  committerEmail := parts.committerEmail ++ [carriageReturn]
  commitDate := parts.commitDate ++ [carriageReturn]
  encoding := if parts.message.isSome then parts.encoding ++ [carriageReturn] else parts.encoding
  message := parts.message.map Bytes.crlf

def Record.crlf (record : Record) : Record :=
  { record with
    author := record.author ++ [carriageReturn]
    authorEmail := record.authorEmail ++ [carriageReturn]
    committer := record.committer ++ [carriageReturn]
    committerEmail := record.committerEmail ++ [carriageReturn]
    message := record.message.crlf }

theorem crlf_line {line : Bytes} (clear : Bytes.newline ∉ line) (rest : Bytes) :
    Bytes.crlf (line ++ Bytes.newline :: rest) = line ++ [carriageReturn] ++ Bytes.newline :: rest.crlf := by
  rw [Bytes.crlf, Pieces.announce_append, Pieces.announce_of_clear (clear_iff.mpr clear),
    Pieces.announce_cons (by decide), List.append_assoc]
  rfl

theorem crlf_lines {lines : List Bytes} (clear : ∀ line ∈ lines, Bytes.newline ∉ line) (last : Bytes) :
    Bytes.crlf ((lines.flatMap fun line => line ++ [Bytes.newline]) ++ last) =
      ((lines.map fun line => line ++ [carriageReturn]).flatMap fun line => line ++ [Bytes.newline]) ++ last.crlf := by
  induction lines with
  | nil => rfl
  | cons line lines ih =>
      obtain ⟨here, clear⟩ := List.forall_mem_cons.mp clear
      rw [List.flatMap_cons, List.append_assoc, List.append_assoc, List.singleton_append, crlf_line here, ih clear]
      simp

theorem Parts.Framed.last_crlf (framed : parts.Framed hash) : parts.crlf.last = parts.last.crlf := by
  cases message : parts.message with
  | none =>
      have plain : parts.last = parts.encoding := by rw [Parts.last, message, Option.elim_none, List.append_nil]
      rw [plain, Bytes.crlf, Pieces.announce_of_clear (clear_iff.mpr framed.encoding)]
      simp [Parts.last, Parts.crlf, message]
  | some text =>
      have closed : parts.last = parts.encoding ++ Bytes.newline :: text := by
        rw [Parts.last, message, Option.elim_some]
      rw [closed, crlf_line framed.encoding]
      simp [Parts.last, Parts.crlf, message]

theorem Parts.Framed.bytes_crlf (framed : parts.Framed hash) : parts.crlf.bytes = parts.bytes.crlf := by
  have whole : parts.bytes.crlf = parts.header.bytes ++ [carriageReturn] ++ Bytes.newline ::
      (((parts.lines.map fun line => line ++ [carriageReturn]).flatMap fun line => line ++ [Bytes.newline]) ++
        parts.last.crlf) := by
    rw [Parts.bytes, crlf_line framed.line, crlf_lines framed.lines]
  rw [whole, ← framed.last_crlf, ← Header.bytes_returned]
  rfl

theorem notMem_concat {line : Bytes} (clear : Bytes.newline ∉ line) : Bytes.newline ∉ line ++ [carriageReturn] := by
  simpa using ⟨clear, by decide⟩

theorem Parts.WellFormed.crlf (shaped : parts.WellFormed hash) : parts.crlf.WellFormed hash := by
  obtain ⟨authorDate, author⟩ := shaped.authorDate
  obtain ⟨commitDate, commit⟩ := shaped.commitDate
  refine ⟨⟨shaped.header.returned, ?_, ?_, ?_⟩, ⟨authorDate, author.concat⟩, ⟨commitDate, commit.concat⟩⟩
  · show Bytes.newline ∉ parts.header.returned.bytes
    rw [Header.bytes_returned]
    exact notMem_concat shaped.line
  · intro line member
    have lines : parts.crlf.lines = parts.lines.map fun line => line ++ [carriageReturn] := rfl
    rw [lines] at member
    obtain ⟨other, here, rfl⟩ := List.mem_map.mp member
    exact notMem_concat (shaped.lines other here)
  · show Bytes.newline ∉ if parts.message.isSome then parts.encoding ++ [carriageReturn] else parts.encoding
    split
    · exact notMem_concat shaped.encoding
    · exact shaped.encoding

theorem Parts.Tells.crlf (tells : parts.Tells record) : parts.crlf.Tells record.crlf := by
  have label : Record.readLabel parts.crlf.encoding = Record.readLabel parts.encoding := by
    show Record.readLabel (if parts.message.isSome then parts.encoding ++ [carriageReturn] else parts.encoding) = _
    split
    · exact readLabel_concat parts.encoding
    · rfl
  have message : record.message.crlf = (parts.message.map Bytes.crlf).getD [] := by
    rw [tells.message]
    cases parts.message <;> rfl
  refine ⟨tells.header.returned, ?_, ?_, tells.authorDate.concat, ?_, ?_, tells.commitDate.concat, ?_, message⟩
  · exact congrArg (· ++ [carriageReturn]) tells.author
  · exact congrArg (· ++ [carriageReturn]) tells.authorEmail
  · exact congrArg (· ++ [carriageReturn]) tells.committer
  · exact congrArg (· ++ [carriageReturn]) tells.committerEmail
  · exact tells.label.trans label.symm

theorem ofBytes_crlf (read : Record.ofBytes hash raw = .ok record) : Record.ofBytes hash raw.crlf = .ok record.crlf := by
  obtain ⟨parts, shaped, rfl, tells⟩ := ofBytes_eq_ok_iff.mp read
  exact ofBytes_eq_ok_iff.mpr ⟨parts.crlf, shaped.crlf, shaped.bytes_crlf, tells.crlf⟩

theorem Decoder.commitOf_crlf {decoder : Decoder} (utf8 : decoder.encodingFor record.label = .utf8) :
    decoder.commitOf record.crlf =
      { decoder.commitOf record with body := (decoder.commitOf record).body.map Text.crlf } := by
  have again : decoder.encodingFor record.crlf.label = .utf8 := utf8
  have message : Message.split (Utf8.decode record.crlf.message) =
      ((Message.split (Utf8.decode record.message)).1, (Message.split (Utf8.decode record.message)).2.map Text.crlf) := by
    rw [← Message.split_crlf, ← Utf8.decode_crlf]
    rfl
  simp only [Decoder.commitOf, utf8, again, Encoding.decode, message]
  simp only [Record.crlf, readName_concat]

theorem Decoder.encodingFor_of_known {decoder : Decoder} {declared : Option Text} (utf8 : decoder.encoding = .utf8)
    (known : ∀ label ∈ declared, Encoding.ofLabel? label.utf8 = none ∨ Encoding.ofLabel? label.utf8 = some .utf8) :
    decoder.encodingFor declared = .utf8 := by
  rw [encodingFor, utf8]
  cases declared with
  | none => rfl
  | some label =>
      rw [Option.bind_some]
      rcases known label rfl with unknown | named
      · rw [unknown, Option.getD_none]
      · rw [named, Option.getD_some]

/-- A record in UTF-8 is read alike with carriage returns in front of its newlines, up to the line ends
within the body. Which encoding it declares does not matter while it is a name of UTF-8 or unknown. -/
theorem line_ends_are_immaterial (decoder : Decoder) (pool : Pool) (raw : Bytes) (number other : Nat) (commit : Commit)
    (utf8 : decoder.encoding = .utf8) (accepted : (decoder.decode raw number).1 = .ok commit)
    (known : ∀ label ∈ commit.encoding,
      Encoding.ofLabel? label.utf8 = none ∨ Encoding.ofLabel? label.utf8 = some .utf8) :
    (({ decoder with pool } : Decoder).decode raw.crlf other).1 =
      .ok { commit with body := commit.body.map Text.crlf } := by
  obtain ⟨record, read, rfl⟩ := decode_eq_ok_iff.mp accepted
  have encoding : decoder.encodingFor record.label = .utf8 := Decoder.encodingFor_of_known utf8 known
  refine decode_eq_ok_iff.mpr ⟨record.crlf, ofBytes_crlf read, ?_⟩
  rw [← Decoder.commitOf_crlf encoding]
  rfl

/-- A record whose characters break off in front of line ends, and which has both kinds of line end. -/
def brokenRecord : Bytes :=
  List.replicate 80 0x64 ++ [0x20, 0x0A, 0x4A, 0xE2, 0x82, 0x0A, 0x0A] ++ Text.utf8 " 7\nJ\r\n\n-1\n utf8\n".toList ++
    Text.utf8 "subject".toList ++ [0xF0, 0x9F, 0x0A] ++ Text.utf8 "wrapped\n \t\n\nfirst\r\n\nlast ".toList ++ [0xE2, 0x0A]

def brokenCommit : Commit where
  id := ⟨List.replicate 20 0xDD, by decide⟩
  tree := ⟨List.replicate 20 0xDD, by decide⟩
  parents := []
  author := "J\ufffd".toList
  authorEmail := []
  authorDate := 7
  committer := "J".toList
  committerEmail := []
  commitDate := -1
  encoding := some "utf8".toList
  subject := "subject\ufffd".toList
  body := some "first\r\n\nlast \ufffd".toList
  refs := []

theorem line_ends_are_immaterial_broken_off :
    let decoder : Decoder := ⟨.sha1, .utf8, .standard⟩
    decoder.encoding = .utf8 ∧ (decoder.decode brokenRecord 0).1 = .ok brokenCommit ∧
      (∀ label ∈ brokenCommit.encoding,
        Encoding.ofLabel? label.utf8 = none ∨ Encoding.ofLabel? label.utf8 = some .utf8) ∧
      (({ decoder with pool := .empty 0 0 } : Decoder).decode brokenRecord.crlf 1).1 =
        .ok { brokenCommit with body := some "first\r\r\n\r\nlast \ufffd".toList } := by
  intro decoder
  have accepted : (decoder.decode brokenRecord 0).1 = .ok brokenCommit := by decide +kernel
  have known : ∀ label ∈ brokenCommit.encoding,
      Encoding.ofLabel? label.utf8 = none ∨ Encoding.ofLabel? label.utf8 = some .utf8 := by decide +kernel
  have ends : brokenCommit.body.map Text.crlf = some "first\r\r\n\r\nlast \ufffd".toList := by decide +kernel
  rw [← ends]
  exact ⟨rfl, accepted, known,
    line_ends_are_immaterial decoder (.empty 0 0) brokenRecord 0 1 brokenCommit rfl accepted known⟩

end Log

end CommitLanes
