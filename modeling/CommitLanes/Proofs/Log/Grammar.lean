import CommitLanes.Log.Decoder
import CommitLanes.Proofs.Commit.Message.Lines
import CommitLanes.Proofs.Decimal.Numeral
import CommitLanes.Proofs.Log.Header
import CommitLanes.Proofs.Text.Strict

/-! Which byte strings are records.

The grammar speaks of parts that are put one behind another, the refusals of the first thing that
is wrong. Every byte string has the one or the other, and decoding answers by it. What bytes the
names and the message hold is no matter of the grammar, but how the commit has them is.
-/

set_option autoImplicit false

namespace CommitLanes.Log

/-- The bytes are a number between blanks, in UTF-8. -/
def Date (raw : Bytes) (seconds : Int64) : Prop :=
  ∃ before number after : Text, raw = (before ++ number ++ after).utf8 ∧ (∀ c ∈ before, Text.isBlank c = true) ∧
    (∀ c ∈ after, Text.isBlank c = true) ∧ Decimal.Numeral number seconds.toInt

/-- The label that the bytes declare: what stands between blanks, in UTF-8, unless that is nothing. -/
def Declares (raw : Bytes) (label : Option Text) : Prop :=
  ∀ text, label = some text ↔
    text ≠ [] ∧ (∀ c ∈ text.head?, Text.isBlank c = false) ∧ (∀ c ∈ text.getLast?, Text.isBlank c = false) ∧
    ∃ before after : Text, raw = (before ++ text ++ after).utf8 ∧ (∀ c ∈ before, Text.isBlank c = true) ∧
      ∀ c ∈ after, Text.isBlank c = true

inductive Means (fallback : Encoding) : Option Text → Encoding → Prop
  | known {label : Text} {encoding : Encoding} (found : Encoding.ofLabel? label.utf8 = some encoding) :
      Means fallback (some label) encoding
  | unknown {label : Text} (absent : Encoding.ofLabel? label.utf8 = none) : Means fallback (some label) fallback
  | undeclared : Means fallback none fallback

/-- The parts of a record. The message may be missing together with the newline in front of it. -/
structure Parts where
  header : Header
  author : Bytes
  authorEmail : Bytes
  authorDate : Bytes
  committer : Bytes
  committerEmail : Bytes
  commitDate : Bytes
  encoding : Bytes
  message : Option Bytes

namespace Parts

def lines (parts : Parts) : List Bytes :=
  [parts.author, parts.authorEmail, parts.authorDate, parts.committer, parts.committerEmail, parts.commitDate]

def last (parts : Parts) : Bytes :=
  parts.encoding ++ parts.message.elim [] fun message => Bytes.newline :: message

def bytes (parts : Parts) : Bytes :=
  parts.header.bytes ++
    Bytes.newline :: ((parts.lines.flatMap fun line => line ++ [Bytes.newline]) ++ parts.last)

/-- The header is in order, and no newline stands where a line should go on. -/
structure Framed (hash : HashFunction) (parts : Parts) : Prop where
  header : parts.header.WellFormed hash
  line : Bytes.newline ∉ parts.header.bytes
  lines : ∀ line ∈ parts.lines, Bytes.newline ∉ line
  encoding : Bytes.newline ∉ parts.encoding

structure WellFormed (hash : HashFunction) (parts : Parts) : Prop extends Framed hash parts where
  authorDate : ∃ seconds, Date parts.authorDate seconds
  commitDate : ∃ seconds, Date parts.commitDate seconds

structure Tells (parts : Parts) (record : Record) : Prop where
  header : parts.header.Tells record.id record.tree record.parents
  author : record.author = parts.author
  authorEmail : record.authorEmail = parts.authorEmail
  authorDate : Date parts.authorDate record.authorDate
  committer : record.committer = parts.committer
  committerEmail : record.committerEmail = parts.committerEmail
  commitDate : Date parts.commitDate record.commitDate
  label : record.label = Record.readLabel parts.encoding
  message : record.message = parts.message.getD []

/-- The names and the message, read in one encoding. A missing message is an empty one. -/
structure Texts (encoding : Encoding) (parts : Parts) (commit : Commit) : Prop where
  author : commit.author = Text.dropEnd '\r' (encoding.decode parts.author)
  authorEmail : commit.authorEmail = Text.dropEnd '\r' (encoding.decode parts.authorEmail)
  committer : commit.committer = Text.dropEnd '\r' (encoding.decode parts.committer)
  committerEmail : commit.committerEmail = Text.dropEnd '\r' (encoding.decode parts.committerEmail)
  message : ∃ first later, Message.Lines (encoding.decode (parts.message.getD [])) (first :: later) ∧
    Message.Told first later commit.subject commit.body

/-- What the parts say of a commit. -/
structure Told (fallback : Encoding) (parts : Parts) (commit : Commit) : Prop where
  header : parts.header.Tells commit.id commit.tree commit.parents
  authorDate : Date parts.authorDate commit.authorDate
  commitDate : Date parts.commitDate commit.commitDate
  label : Declares parts.encoding commit.encoding
  texts : ∃ encoding, Means fallback commit.encoding encoding ∧ parts.Texts encoding commit
  refs : commit.refs = []

end Parts

/-- Why a byte string is no record. With fewer newlines behind the header than fields are closed,
the first field that is not reached is missing. -/
inductive Refused (hash : HashFunction) : Bytes → Reason → Prop
  | unterminated {raw : Bytes} (endless : Bytes.newline ∉ raw) : Refused hash raw .unterminatedHeader
  | header {line rest : Bytes} {reason : Reason} (clear : Bytes.newline ∉ line)
      (refused : Header.Refused hash line reason) : Refused hash (line ++ Bytes.newline :: rest) reason
  | missing {header : Header} {rest : Bytes} {field : Field} (shaped : header.WellFormed hash)
      (clear : Bytes.newline ∉ header.bytes) (few : Field.all[rest.count Bytes.newline + 1]? = some field) :
      Refused hash (header.bytes ++ Bytes.newline :: rest) (.missingField field)
  | authorDate {parts : Parts} (framed : parts.Framed hash) (wrong : ∀ seconds, ¬ Date parts.authorDate seconds) :
      Refused hash parts.bytes (.timestamp .authorDate)
  | commitDate {parts : Parts} (framed : parts.Framed hash) (dated : ∃ seconds, Date parts.authorDate seconds)
      (wrong : ∀ seconds, ¬ Date parts.commitDate seconds) :
      Refused hash parts.bytes (.timestamp .commitDate)

variable {hash : HashFunction} {raw line : Bytes} {parts : Parts} {reason : Reason}

section Shape

theorem clear_iff : (∀ b ∈ line, Bytes.isNewline b = false) ↔ Bytes.newline ∉ line := by
  constructor
  · intro clear member
    exact absurd (clear _ member) (by decide)
  · intro clear b member
    exact beq_eq_false_iff_ne.mpr fun same => clear (same ▸ member)

theorem eq_newline {b : UInt8} (isMark : Bytes.isNewline b = true) : b = Bytes.newline :=
  eq_of_beq isMark

/-- What stands behind six closed lines is the encoding, and behind a newline the message. -/
theorem exists_parts (header : Header) {lines : List Bytes} (six : lines.length = 6) (last : Bytes) :
    ∃ parts : Parts, parts.header = header ∧ parts.lines = lines ∧ parts.last = last ∧
      Bytes.newline ∉ parts.encoding := by
  match lines, six with
  | [author, authorEmail, authorDate, committer, committerEmail, commitDate], _ =>
    let build (encoding : Bytes) (message : Option Bytes) : Parts :=
      ⟨header, author, authorEmail, authorDate, committer, committerEmail, commitDate, encoding, message⟩
    cases found : Pieces.cut Bytes.isNewline last with
    | none =>
        exact ⟨build last none, rfl, rfl, List.append_nil last, clear_iff.mp (Pieces.cut_eq_none_iff.mp found)⟩
    | some pieces =>
        obtain ⟨encoding, message⟩ := pieces
        obtain ⟨mark, isMark, rfl, clear⟩ := Pieces.eq_of_cut found
        rw [eq_newline isMark]
        exact ⟨build encoding (some message), rfl, rfl, rfl, clear_iff.mp clear⟩

theorem refused_or_framed (hash : HashFunction) (raw : Bytes) :
    (∃ reason, Refused hash raw reason) ∨ ∃ parts : Parts, parts.Framed hash ∧ parts.bytes = raw := by
  cases found : Pieces.cut Bytes.isNewline raw with
  | none => exact .inl ⟨_, .unterminated (clear_iff.mp (Pieces.cut_eq_none_iff.mp found))⟩
  | some pieces =>
      obtain ⟨line, rest⟩ := pieces
      obtain ⟨mark, isMark, rfl, clear⟩ := Pieces.eq_of_cut found
      obtain rfl := eq_newline isMark
      have plain := clear_iff.mp clear
      rcases Header.refused_or_wellFormed hash line with ⟨reason, refused⟩ | ⟨header, shaped, rfl⟩
      case inl => exact .inl ⟨reason, .header plain refused⟩
      obtain ⟨lines, last, divided⟩ := Pieces.exists_lines (fun _ => eq_newline) 6 rest
      rcases Nat.lt_or_eq_of_le divided.most with fewer | six
      · have count : rest.count Bytes.newline = lines.length := divided.countP_of_fewer isMark fewer
        have inside : rest.count Bytes.newline + 1 < Field.all.length := by
          rw [count]
          exact Nat.succ_lt_succ fewer
        exact .inl ⟨_, .missing shaped plain (List.getElem?_eq_getElem inside)⟩
      · obtain ⟨parts, rfl, rfl, rfl, behind⟩ := exists_parts header six last
        refine .inr ⟨parts, ⟨shaped, plain, fun line member => clear_iff.mp (divided.clear line member), behind⟩, ?_⟩
        rw [Parts.bytes, ← divided.text]

theorem refused_or_wellFormed (hash : HashFunction) (raw : Bytes) :
    (∃ reason, Refused hash raw reason) ∨ ∃ parts : Parts, parts.WellFormed hash ∧ parts.bytes = raw := by
  rcases refused_or_framed hash raw with refused | ⟨parts, framed, rfl⟩
  case inl => exact .inl refused
  by_cases author : ∃ seconds, Date parts.authorDate seconds
  case neg => exact .inl ⟨_, .authorDate framed fun seconds date => author ⟨seconds, date⟩⟩
  by_cases commit : ∃ seconds, Date parts.commitDate seconds
  case neg => exact .inl ⟨_, .commitDate framed author fun seconds date => commit ⟨seconds, date⟩⟩
  exact .inr ⟨parts, ⟨framed, author, commit⟩, rfl⟩

theorem Parts.WellFormed.exists_tells (shaped : parts.WellFormed hash) : ∃ record, parts.Tells record := by
  obtain ⟨id, tree, parents, header⟩ := shaped.header.exists_tells
  obtain ⟨authorDate, author⟩ := shaped.authorDate
  obtain ⟨commitDate, commit⟩ := shaped.commitDate
  let record : Record :=
    { id, tree, parents, author := parts.author, authorEmail := parts.authorEmail, authorDate,
      committer := parts.committer, committerEmail := parts.committerEmail, commitDate,
      label := Record.readLabel parts.encoding, message := parts.message.getD [] }
  exact ⟨record, header, rfl, rfl, author, rfl, rfl, commit, rfl, rfl⟩

end Shape

section Reading

open Record

variable {field : Field} {seconds : Int64} {id tree : ObjectId} {parents : List ObjectId}

theorem date_iff :
    ((Utf8.decode? raw).bind fun text => Decimal.int64? text.trim) = some seconds ↔ Date raw seconds := by
  rw [Option.bind_eq_some_iff]
  constructor
  · rintro ⟨text, decoded, read⟩
    obtain ⟨before, number, after, rfl, front, back, numeral⟩ := Decimal.int64?_trim_eq_some_iff.mp read
    exact ⟨before, number, after, Utf8.decode?_eq_some_iff.mp decoded, front, back, numeral⟩
  · rintro ⟨before, number, after, same, front, back, numeral⟩
    exact ⟨_, Utf8.decode?_eq_some_iff.mpr same,
      Decimal.int64?_trim_eq_some_iff.mpr ⟨before, number, after, rfl, front, back, numeral⟩⟩

theorem readDate_of_date (date : Date raw seconds) : readDate field raw = .ok seconds := by
  rw [readDate, date_iff.mpr date]

theorem readDate_of_undated (wrong : ∀ seconds, ¬ Date raw seconds) :
    readDate field raw = .error (.timestamp field) := by
  rw [readDate]
  split
  next seconds read => exact absurd (date_iff.mp read) (wrong seconds)
  next => rfl

theorem splitUpTo_parts (framed : parts.Framed hash) :
    Pieces.splitUpTo Bytes.isNewline (Field.all.length + 1)
        ((parts.lines.flatMap fun line => line ++ [Bytes.newline]) ++ parts.last) =
      parts.lines ++ parts.encoding :: parts.message.toList := by
  have isMark : Bytes.isNewline Bytes.newline = true := beq_self_eq_true _
  have clear : ∀ line ∈ parts.lines, ∀ b ∈ line, Bytes.isNewline b = false :=
    fun line member => clear_iff.mpr (framed.lines line member)
  -- One piece for each line, and two for what stands behind them.
  have behind : Pieces.splitUpTo Bytes.isNewline 2 parts.last = parts.encoding :: parts.message.toList := by
    cases message : parts.message with
    | none =>
        rw [Parts.last, message, Option.elim_none, List.append_nil,
          Pieces.splitUpTo_of_clear (clear_iff.mpr framed.encoding)]
        rfl
    | some text =>
        rw [Parts.last, message, Option.elim_some, Pieces.splitUpTo,
          Pieces.cut_of_clear (clear_iff.mpr framed.encoding) isMark]
        rfl
  exact (Pieces.splitUpTo_lines_append isMark clear parts.last 1).trans (congrArg (parts.lines ++ ·) behind)

theorem Parts.Framed.ofBytes (framed : parts.Framed hash) (tells : parts.header.Tells id tree parents) :
    ofBytes hash parts.bytes = do
      let authorDate ← readDate .authorDate parts.authorDate
      let commitDate ← readDate .commitDate parts.commitDate
      return {
        id, tree, parents, authorDate, commitDate
        author := parts.author
        authorEmail := parts.authorEmail
        committer := parts.committer
        committerEmail := parts.committerEmail
        label := readLabel parts.encoding
        message := parts.message.getD [] } := by
  have cut := Pieces.cut_of_clear (clear_iff.mpr framed.line) (beq_self_eq_true Bytes.newline)
    ((parts.lines.flatMap fun line => line ++ [Bytes.newline]) ++ parts.last)
  rw [Parts.bytes, Record.ofBytes, cut]
  simp only [pure_bind]
  rw [framed.header.readHeader tells, splitUpTo_parts framed]
  cases message : parts.message <;> rfl

theorem Parts.WellFormed.ofBytes {record : Record} (shaped : parts.WellFormed hash) (tells : parts.Tells record) :
    ofBytes hash parts.bytes = .ok record := by
  rw [shaped.toFramed.ofBytes tells.header, readDate_of_date tells.authorDate, readDate_of_date tells.commitDate,
    ← tells.author, ← tells.authorEmail, ← tells.committer, ← tells.committerEmail, ← tells.label, ← tells.message]
  rfl

/-- The pieces stop short of the last field, and their number tells which one is missing. -/
theorem ofBytes_of_few {header : Header} {rest : Bytes} (shaped : header.WellFormed hash)
    (clear : Bytes.newline ∉ header.bytes) (few : Field.all[rest.count Bytes.newline + 1]? = some field) :
    ofBytes hash (header.bytes ++ Bytes.newline :: rest) = .error (.missingField field) := by
  have isMark : Bytes.isNewline Bytes.newline = true := beq_self_eq_true _
  obtain ⟨id, tree, parents, tells⟩ := shaped.exists_tells
  obtain ⟨lines, last, divided⟩ := Pieces.exists_lines (fun _ => eq_newline) 6 rest
  have fewer : lines.length < 6 := by
    have reached : rest.count Bytes.newline + 1 < 7 := (List.getElem?_eq_some_iff.mp few).1
    exact Nat.lt_of_le_of_lt (divided.length_le_countP isMark) (Nat.lt_of_succ_lt_succ reached)
  have count : rest.count Bytes.newline = lines.length := divided.countP_of_fewer isMark fewer
  have pieces : Pieces.splitUpTo Bytes.isNewline (Field.all.length + 1) rest = lines ++ [last] :=
    divided.splitUpTo_of_fewer isMark fewer (by decide)
  rw [Record.ofBytes, Pieces.cut_of_clear (clear_iff.mpr clear) isMark]
  simp only [pure_bind]
  rw [shaped.readHeader tells, pieces]
  simp only [bind, Except.bind]
  split
  next long =>
    have length := congrArg List.length long
    simp only [List.length_append, List.length_cons, List.length_nil] at length
    omega
  next =>
    have missing : firstMissing (lines ++ [last]).length = field := by
      rw [firstMissing, List.getD_eq_getElem?_getD, List.length_append, List.length_singleton, ← count, few]
      rfl
    rw [missing]
    rfl

theorem Refused.ofBytes (refused : Refused hash raw reason) : ofBytes hash raw = .error reason := by
  cases refused with
  | unterminated endless =>
      rw [Record.ofBytes, Pieces.cut_eq_none_iff.mpr (clear_iff.mpr endless)]
      rfl
  | header clear refused =>
      rw [Record.ofBytes, Pieces.cut_of_clear (clear_iff.mpr clear) (beq_self_eq_true Bytes.newline)]
      simp only [pure_bind]
      rw [refused.readHeader]
      rfl
  | missing shaped clear few => exact ofBytes_of_few shaped clear few
  | authorDate framed wrong =>
      obtain ⟨id, tree, parents, tells⟩ := framed.header.exists_tells
      rw [framed.ofBytes tells, readDate_of_undated wrong]
      rfl
  | commitDate framed dated wrong =>
      obtain ⟨id, tree, parents, tells⟩ := framed.header.exists_tells
      obtain ⟨seconds, date⟩ := dated
      rw [framed.ofBytes tells, readDate_of_date date, readDate_of_undated wrong]
      rfl

theorem ofBytes_eq_ok_iff {record : Record} :
    ofBytes hash raw = .ok record ↔ ∃ parts : Parts, parts.WellFormed hash ∧ parts.bytes = raw ∧ parts.Tells record := by
  constructor
  · intro read
    rcases refused_or_wellFormed hash raw with ⟨reason, refused⟩ | ⟨parts, shaped, rfl⟩
    · rw [refused.ofBytes] at read
      cases read
    · obtain ⟨other, tells⟩ := shaped.exists_tells
      rw [shaped.ofBytes tells] at read
      cases read
      exact ⟨parts, shaped, rfl, tells⟩
  · rintro ⟨parts, shaped, rfl, tells⟩
    exact shaped.ofBytes tells

theorem ofBytes_eq_error_iff : ofBytes hash raw = .error reason ↔ Refused hash raw reason := by
  constructor
  · intro read
    rcases refused_or_wellFormed hash raw with ⟨other, refused⟩ | ⟨parts, shaped, rfl⟩
    · rw [refused.ofBytes] at read
      cases read
      exact refused
    · obtain ⟨record, tells⟩ := shaped.exists_tells
      rw [shaped.ofBytes tells] at read
      cases read
  · exact fun refused => refused.ofBytes

end Reading

section Telling

variable {decoder : Decoder} {record : Record} {commit : Commit} {label : Option Text} {encoding : Encoding}

theorem declares_readLabel (raw : Bytes) : Declares raw (Record.readLabel raw) := by
  intro text
  rw [Record.readLabel, Option.filter_eq_some_iff, Option.map_eq_some_iff]
  constructor
  · rintro ⟨⟨whole, decoded, rfl⟩, full⟩
    obtain ⟨before, after, same, front, back⟩ := Text.exists_padding whole
    refine ⟨by simpa using full, fun c => Text.not_blank_of_head?_trim, fun c => Text.not_blank_of_getLast?_trim,
      before, after, ?_, front, back⟩
    rw [← same]
    exact Utf8.decode?_eq_some_iff.mp decoded
  · rintro ⟨full, starts, stops, before, after, same, front, back⟩
    exact ⟨⟨_, Utf8.decode?_eq_some_iff.mpr same, Text.trim_padded front back full starts stops⟩, by simpa using full⟩

theorem Declares.eq_readLabel (declares : Declares raw label) : label = Record.readLabel raw :=
  Option.ext fun text => (declares text).trans (declares_readLabel raw text).symm

theorem means_encodingFor (decoder : Decoder) (label : Option Text) :
    Means decoder.encoding label (decoder.encodingFor label) := by
  cases label with
  | none => exact .undeclared
  | some label =>
      rw [Decoder.encodingFor, Option.bind_some]
      cases found : Encoding.ofLabel? label.utf8 with
      | none => exact .unknown found
      | some encoding => exact .known found

theorem Means.eq_encodingFor (means : Means decoder.encoding label encoding) :
    encoding = decoder.encodingFor label := by
  cases means with
  | known found => rw [Decoder.encodingFor, Option.bind_some, found, Option.getD_some]
  | unknown absent => rw [Decoder.encodingFor, Option.bind_some, absent, Option.getD_none]
  | undeclared => rfl

theorem Parts.Tells.told (tells : parts.Tells record) (decoder : Decoder) :
    parts.Told decoder.encoding (decoder.commitOf record) where
  header := tells.header
  authorDate := tells.authorDate
  commitDate := tells.commitDate
  label := by
    show Declares parts.encoding record.label
    rw [tells.label]
    exact declares_readLabel parts.encoding
  texts := by
    obtain ⟨first, later, divided⟩ :=
      Message.exists_lines ((decoder.encodingFor record.label).decode (parts.message.getD []))
    have told := divided.told
    rw [← tells.message] at divided told
    refine ⟨decoder.encodingFor record.label, means_encodingFor decoder record.label, ?_, ?_, ?_, ?_, first, later, ?_⟩
    · rw [← tells.author]
      rfl
    · rw [← tells.authorEmail]
      rfl
    · rw [← tells.committer]
      rfl
    · rw [← tells.committerEmail]
      rfl
    · rw [← tells.message]
      exact ⟨divided, told⟩
  refs := rfl

theorem Parts.Told.exists_tells (told : parts.Told decoder.encoding commit) :
    ∃ record, parts.Tells record ∧ commit = decoder.commitOf record := by
  obtain ⟨encoding, means, texts⟩ := told.texts
  obtain rfl := means.eq_encodingFor
  obtain ⟨first, later, divided, message⟩ := texts.message
  let record : Record :=
    { id := commit.id, tree := commit.tree, parents := commit.parents, author := parts.author,
      authorEmail := parts.authorEmail, authorDate := commit.authorDate, committer := parts.committer,
      committerEmail := parts.committerEmail, commitDate := commit.commitDate, label := commit.encoding,
      message := parts.message.getD [] }
  refine ⟨record,
    ⟨told.header, rfl, rfl, told.authorDate, rfl, rfl, told.commitDate, told.label.eq_readLabel, rfl⟩, ?_⟩
  have split : Message.split ((decoder.encodingFor commit.encoding).decode (parts.message.getD [])) =
      (commit.subject, commit.body) := divided.split_eq_of_told message
  rw [Decoder.commitOf]
  simp only [record, split, Decoder.readName]
  rw [← texts.author, ← texts.authorEmail, ← texts.committer, ← texts.committerEmail, ← told.refs]

end Telling

section Decoding

variable {decoder : Decoder} {number : Nat}

theorem decode_eq_ok_iff {commit : Commit} :
    (decoder.decode raw number).1 = .ok commit ↔
      ∃ record, Record.ofBytes decoder.hash raw = .ok record ∧ commit = decoder.commitOf record := by
  cases read : Record.ofBytes decoder.hash raw with
  | error reason => simp [Decoder.decode_of_error read]
  | ok record =>
      rw [Decoder.decode_of_ok read]
      constructor
      · rintro ⟨⟩
        exact ⟨record, rfl, rfl⟩
      · rintro ⟨_, ⟨⟩, rfl⟩
        rfl

theorem decode_eq_error_iff {fault : Fault} :
    (decoder.decode raw number).1 = .error fault ↔
      ∃ reason, Record.ofBytes decoder.hash raw = .error reason ∧ fault = .malformed number reason := by
  cases read : Record.ofBytes decoder.hash raw with
  | ok record => simp [Decoder.decode_of_ok read]
  | error reason =>
      rw [Decoder.decode_of_error read]
      constructor
      · rintro ⟨⟩
        exact ⟨reason, rfl, rfl⟩
      · rintro ⟨_, ⟨⟩, rfl⟩
        rfl

end Decoding

/-- A byte string is decoded exactly where it is made of well-formed parts, and the commit is what
the parts say. Any other is reported with the first thing that is wrong with it. -/
theorem decode_follows_grammar (decoder : Decoder) (raw : Bytes) (number : Nat) :
    ((∃ commit, (decoder.decode raw number).1 = .ok commit) ↔
      ∃ parts : Parts, parts.WellFormed decoder.hash ∧ parts.bytes = raw) ∧
    (∀ commit, (decoder.decode raw number).1 = .ok commit ↔
      ∃ parts : Parts, parts.WellFormed decoder.hash ∧ parts.bytes = raw ∧ parts.Told decoder.encoding commit) ∧
    ∀ fault, (decoder.decode raw number).1 = .error fault ↔
      ∃ reason, Refused decoder.hash raw reason ∧ fault = .malformed number reason := by
  refine ⟨⟨?_, ?_⟩, ?_, ?_⟩
  · rintro ⟨commit, decoded⟩
    obtain ⟨record, read, -⟩ := decode_eq_ok_iff.mp decoded
    obtain ⟨parts, shaped, same, -⟩ := ofBytes_eq_ok_iff.mp read
    exact ⟨parts, shaped, same⟩
  · rintro ⟨parts, shaped, rfl⟩
    obtain ⟨record, tells⟩ := shaped.exists_tells
    exact ⟨_, decode_eq_ok_iff.mpr ⟨record, shaped.ofBytes tells, rfl⟩⟩
  · intro commit
    rw [decode_eq_ok_iff]
    constructor
    · rintro ⟨record, read, rfl⟩
      obtain ⟨parts, shaped, same, tells⟩ := ofBytes_eq_ok_iff.mp read
      exact ⟨parts, shaped, same, tells.told decoder⟩
    · rintro ⟨parts, shaped, rfl, told⟩
      obtain ⟨record, tells, rfl⟩ := told.exists_tells
      exact ⟨record, shaped.ofBytes tells, rfl⟩
  · intro fault
    simp only [decode_eq_error_iff, ofBytes_eq_error_iff]

end CommitLanes.Log
