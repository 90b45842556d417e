import CommitLanes.Proofs.Repository.Streaming

/-! A history that is streamed is the one that is exported at once.

The stream walks the repository anew. If both walks meet the same commits, the bytes of the
stream are the records of the export, and where the walk fails the export gives the fault alone
and the stream the records before it. A limit keeps the first records.
-/

set_option autoImplicit false

namespace CommitLanes.Repository

variable {repository : Repository} {limit : Option Nat} {told : Bool}

namespace History

variable {read? : ObjectId → Option Log.Entry} {ids : List ObjectId} {history : History}

theorem ofWalk_take (whole : (ofWalk read? ids).fault = none) (n : Nat) :
    ofWalk read? (ids.take n) = ⟨(ofWalk read? ids).entries.take n, none⟩ := by
  induction ids generalizing n with
  | nil => simp [ofWalk]
  | cons id ids ih =>
      cases n with
      | zero => rfl
      | succ n =>
          cases found : read? id with
          | none => simp [ofWalk, found] at whole
          | some entry =>
              simp only [ofWalk, found] at whole
              simp [ofWalk, found, ih whole n]

theorem toExcept_eq_ok_iff {bytes : Bytes} :
    history.toExcept = .ok bytes ↔ history.fault = none ∧ history.records.flatten = bytes := by
  unfold toExcept
  cases history.fault <;> simp

end History

theorem history_run (repository : Repository) (limit : Option Nat) (told : Bool) :
    ((repository.history limit).run told).1 =
      ((repository.tips.run.run told).1.map (repository.historyFrom limit)).getD ⟨[], some .damaged⟩ := by
  rw [history, StateT.run_bind]
  rcases repository.tips.run.run told with ⟨_ | tips, later⟩ <;> rfl

theorem historyFrom_none (repository : Repository) (tips : List ObjectId) :
    repository.historyFrom none tips =
      ((Walk.from? repository tips).map (History.ofWalk repository.entryAt?)).getD ⟨[], some .damaged⟩ := by
  simp only [historyFrom]
  cases Walk.from? repository tips <;> simp

theorem historyFrom_some {tips : List ObjectId} (whole : (repository.historyFrom none tips).fault = none) (n : Nat) :
    repository.historyFrom (some n) tips = ⟨(repository.historyFrom none tips).entries.take n, none⟩ := by
  rw [historyFrom_none] at whole ⊢
  cases found : Walk.from? repository tips with
  | none => simp [found] at whole
  | some ids =>
      simp only [found, Option.map_some, Option.getD_some] at whole ⊢
      cases n with
      | zero => rfl
      | succ n => simp [historyFrom, found, History.ofWalk_take whole]

theorem history_some (whole : ((repository.history none).run told).1.fault = none) (n : Nat) :
    ((repository.history (some n)).run told).1 = ⟨((repository.history none).run told).1.entries.take n, none⟩ := by
  rw [history_run] at whole ⊢
  rw [history_run]
  cases found : (repository.tips.run.run told).1 with
  | none => simp [found] at whole
  | some tips =>
      simp only [found, Option.map_some, Option.getD_some] at whole ⊢
      exact historyFrom_some whole n

namespace History

/-- The pieces are what is read of a stream of the history, whoever moves when: its readings give
them and then the fault, if there is one, and nothing any more. With enough turns of both parties
as many readings return as one likes. -/
structure Streams (history : History) (sizes : Nat → Nat) (pieces : List Bytes) : Prop where
  cut : Cut sizes history.records.flatten pieces
  atOnce : ∀ call, (Reader.start history).reading sizes call = expected pieces history.fault call
  scheduled : ∀ schedule, let readings := ((Stream.start history).play sizes schedule).readings
    readings = (List.range readings.length).map fun call => (expected pieces history.fault call).given
  returning : ∀ calls schedule, Stream.Fair (2 * (history.entries.length + 1) + calls) schedule →
    calls ≤ ((Stream.start history).play sizes schedule).readings.length

theorem exists_streams (history : History) {sizes : Nat → Nat} (room : ∀ call, 0 < sizes call) :
    ∃ pieces, history.Streams sizes pieces := by
  obtain ⟨pieces, cut, readings⟩ := Reader.exists_cut room (.start history)
  refine ⟨pieces, cut, readings, fun schedule => ?_, fun calls schedule fair => ?_⟩
  · have follows := Stream.follows_play (Stream.follows_start sizes history) schedule
    refine follows.readings.trans (List.map_congr_left fun call _ => ?_)
    rw [readings]
    rfl
  · have present : (Stream.start history).dropped = false := rfl
    have begun : (Stream.start history).readings.length = 0 := rfl
    have effort : (Stream.start history).effort = 2 * (history.entries.length + 1) := rfl
    have enough := @Stream.rounds_le _ sizes _ _ present fair
    omega

end History

/-- Read with any room, a stream gives the records of the walk in order, each byte once, and then
its fault once, if it has one, and nothing from then on. The export at once gives the same bytes,
or the same fault and nothing else. With a limit it gives the first records of the whole export. -/
theorem export_is_streamed (repository : Repository) (limit : Option Nat) (told : Bool) (sizes : Nat → Nat)
    (room : ∀ call, 0 < sizes call)
    (agree : ((repository.history limit).run told).1 = (repository.history limit).first) :
    let streamed := (repository.history limit).first
    let exported (limit : Option Nat) := ((repository.history limit).run told).1.toExcept
    (∃ pieces, streamed.Streams sizes pieces ∧
      exported limit = match streamed.fault with
        | none => .ok pieces.flatten
        | some fault => .error fault) ∧
      ∀ n bytes, exported none = .ok bytes →
        let records := ((repository.history none).run told).1.records
        bytes = records.flatten ∧ exported (some n) = .ok (records.take n).flatten := by
  intro streamed exported
  refine ⟨?_, fun n bytes whole => ?_⟩
  · obtain ⟨pieces, streams⟩ := streamed.exists_streams room
    have same : exported limit = streamed.toExcept := congrArg History.toExcept agree
    refine ⟨pieces, streams, ?_⟩
    rw [same, History.toExcept, streams.cut.whole]
    cases streamed.fault <;> rfl
  · obtain ⟨sound, same⟩ := History.toExcept_eq_ok_iff.mp whole
    refine ⟨same.symm, ?_⟩
    simp only [exported, history_some sound n]
    simp [History.toExcept, History.records, List.map_take]

section Samples

def sampleId (hex : String) : ObjectId :=
  (ObjectId.ofText hex.toList).toOption.getD .workingTree

def sampleCommit (tree : Char) (parents : List ObjectId) : Object where
  kind := .commit
  content := Bytes.ofString "tree " ++ Text.utf8 (List.replicate 40 tree) ++ [Bytes.newline] ++
    parents.flatMap (fun parent => Bytes.ofString "parent " ++ parent.hex.utf8 ++ [Bytes.newline]) ++
    Bytes.ofString "author A <a> 1\ncommitter B <b> 2\n\nmessage\n"

/-- The file of an object in a single block that is not compressed. -/
def looseFile (id : ObjectId) (object : Object) : Path × Bytes :=
  let data := object.encode
  let low := UInt8.ofNat data.length
  let high := UInt8.ofNat (data.length / 256)
  ([Bytes.ofString "objects", Text.utf8 (id.hex.take 2), Text.utf8 (id.hex.drop 2)],
    [0x78, 0x01, 0x01, low, high, ~~~low, ~~~high] ++ data ++ Sha1.bigEndian 4 (Zlib.checksum data))

/-- A branch of two commits under a head that leads nowhere. The walk passes over the tree of a
commit, so it meets the first of them even if that is not intact. -/
structure Sample where
  intact : Bool
  last : ObjectId
  first : ObjectId

def intactSample : Sample where
  intact := true
  last := sampleId "83022a5d50401e0c08c03763bfac56de1746ae80"
  first := sampleId "5b9b24ae8d723654d682ee5f0108bff0a1f191e0"

def brokenSample : Sample where
  intact := false
  last := sampleId "c170664012b171ca13ad5fd9c3633c0b229bd5f8"
  first := sampleId "22b67e7668d01e0ba61ed0d55efc9ecfb095d9a4"

namespace Sample

def lastCommit (sample : Sample) : Object :=
  sampleCommit '1' [sample.first]

/-- No tree has a name with the letter z in it. -/
def firstCommit (sample : Sample) : Object :=
  sampleCommit (if sample.intact then '0' else 'z') []

def stored (sample : Sample) : Repository where
  files := {
    files := [([Bytes.ofString "HEAD"], Bytes.ofString "ref: refs/heads/none"),
      ([Bytes.ofString "refs", Bytes.ofString "heads", Bytes.ofString "main"], sample.last.hex.utf8),
      looseFile sample.first sample.firstCommit, looseFile sample.last sample.lastCommit]
    directories := [] }
  path := []
  home := []

/-- The walk meets two commits, whoever asks, and only the first of them may be unreadable. -/
structure Met (sample : Sample) : Prop where
  tips : ∀ told, (sample.stored.tips.run.run told).1 = some [sample.last]
  apart : sample.last ≠ sample.first
  atLast : sample.stored.commitContent? sample.last = some sample.lastCommit.content
  atFirst : sample.stored.commitContent? sample.first = some sample.firstCommit.content
  outlineLast : StoredCommit.outline? sample.lastCommit.content = some ⟨[sample.first], 2⟩
  outlineFirst : StoredCommit.outline? sample.firstCommit.content = some ⟨[], 2⟩
  readLast : (StoredCommit.ofContent? sample.lastCommit.content).isSome = true
  readFirst : (StoredCommit.ofContent? sample.firstCommit.content).isSome = sample.intact

theorem met_intactSample : intactSample.Met := by
  constructor <;> decide +kernel

theorem met_brokenSample : brokenSample.Met := by
  constructor <;> decide +kernel

variable {sample : Sample}

theorem Met.history (met : sample.Met) (told : Bool) : ((sample.stored.history none).run told).1 =
    .ofWalk sample.stored.entryAt? [sample.last, sample.first] := by
  have reached : Walk.reach sample.stored 5 [sample.last] [] =
      some [⟨sample.last, [sample.first], 2⟩, ⟨sample.first, [], 2⟩] := by
    simp [Walk.reach, Walk.nodeAt?, met.atLast, met.atFirst, met.outlineLast, met.outlineFirst, met.apart]
  have extent : sample.stored.extent = 5 := rfl
  have walked : Walk.from? sample.stored [sample.last] = some [sample.last, sample.first] := by
    simp [Walk.from?, extent, reached, Walk.isAwaited, met.apart, Walk.order, Walk.takeLatest?]
  rw [history_run, met.tips, Option.map_some, Option.getD_some, historyFrom_none, walked, Option.map_some,
    Option.getD_some]

theorem Met.entryAt_last (met : sample.Met) : (sample.stored.entryAt? sample.last).isSome = true := by
  rw [entryAt?, met.atLast, Option.bind_some, Option.isSome_map, met.readLast]

theorem Met.entryAt_first (met : sample.Met) : (sample.stored.entryAt? sample.first).isSome = sample.intact := by
  rw [entryAt?, met.atFirst, Option.bind_some, Option.isSome_map, met.readFirst]

theorem Met.exported (met : sample.Met) (told : Bool) (sound : sample.intact = true) :
    ((sample.stored.history none).run told).1.toExcept =
      .ok ((sample.stored.history none).run told).1.records.flatten := by
  obtain ⟨last, isLast⟩ := Option.isSome_iff_exists.mp met.entryAt_last
  obtain ⟨first, isFirst⟩ := Option.isSome_iff_exists.mp (met.entryAt_first.trans sound)
  simp [met.history, History.toExcept, History.ofWalk, isLast, isFirst]

theorem Met.broken (met : sample.Met) (told : Bool) (unsound : sample.intact = false) :
    ((sample.stored.history none).run told).1.fault = some (.unloadable sample.first) ∧
      ((sample.stored.history none).run told).1.records.length = 1 := by
  obtain ⟨last, isLast⟩ := Option.isSome_iff_exists.mp met.entryAt_last
  have noFirst : sample.stored.entryAt? sample.first = none := by
    simpa [unsound] using met.entryAt_first
  simp [met.history, History.ofWalk, History.records, isLast, noFirst]

end Sample

/-- Read a few bytes at a time, the broken branch gives its last commit and then the fault. Of the
intact one an export with a limit gives the last commit alone. -/
theorem export_is_streamed_samples :
    let room (call : Nat) := call % 3 + 1
    let broken := (brokenSample.stored.history none).first
    let intact := ((intactSample.stored.history none).run false).1
    (∀ call, 0 < room call) ∧ ((brokenSample.stored.history none).run true).1 = broken ∧ broken.records.length = 1 ∧
      (∃ pieces, broken.Streams room pieces) ∧
      ((brokenSample.stored.history none).run true).1.toExcept = .error (.unloadable brokenSample.first) ∧
      intact.toExcept = .ok intact.records.flatten ∧
      ((intactSample.stored.history (some 1)).run false).1.toExcept = .ok (intact.records.take 1).flatten := by
  intro room broken intact
  have positive : ∀ call, 0 < room call := fun call => Nat.succ_pos _
  have agree : ((brokenSample.stored.history none).run true).1 = broken := by
    simp only [broken, Visit.first, Sample.met_brokenSample.history]
  obtain ⟨fault, length⟩ : broken.fault = some (.unloadable brokenSample.first) ∧ broken.records.length = 1 := by
    simp only [broken, Visit.first]
    exact Sample.met_brokenSample.broken false rfl
  have whole : intact.toExcept = .ok intact.records.flatten := Sample.met_intactSample.exported false rfl
  obtain ⟨⟨pieces, streams, exported⟩, -⟩ := export_is_streamed brokenSample.stored none true room positive agree
  obtain ⟨-, limited⟩ := export_is_streamed intactSample.stored none false room positive (by rw [Visit.first])
  rw [fault] at exported
  exact ⟨positive, agree, length, ⟨pieces, streams⟩, exported, whole, (limited 1 _ whole).2⟩

end Samples

end CommitLanes.Repository
