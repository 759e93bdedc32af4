import Paxosme.Verif.EmptiedSegments
import Paxosme.Verif.FailingCalls
import Paxosme.Verif.PartialWrites

/-!
# `Append` with calls that fail

`Append` that starts no segment is all or nothing: it appends the record, or leaves the store as it
is. Once it has cut the segment in use nothing leads back: unless the next segment is started whole
and the record written, the store has no segment open any more, or takes another one to be in use,
or the metadata file does not name the one that is.
-/

namespace Paxosme

open Posix Bytes Framing

/-- The metadata file names a segment: `Init` finds its number there, and a checksum that is the one
of that number unless the file is empty still. -/
structure NamesSegment (env : Environment) (segmentId : SegmentId) (bytes : List UInt8) : Prop where
  decodes : decodeMetadata env bytes = some segmentId
  checksum : bytes ≠ [] → (bytes.drop 4).take 8 = checksumBytes env segmentId

/-- What happens to a store of whose calls some fail. -/
inductive FailingEvent where
  /-- `Append`, when its calls come out so. -/
  | append (key value : List UInt8) (outcomes : List Outcome)
  | removeAsync (segmentIndex : SegmentIndex)
  /-- The event that cleans a segment is called, if it is pending. -/
  | clean (segmentId : SegmentId)
  /-- A new object is initialised on what is there. -/
  | reopen (how : Reopening)
  deriving DecidableEq, Repr

/-- A store with the files under it, and the segments whose events are pending. -/
structure FailingSession where
  store : LogSegmentStore
  files : Files FileName
  events : List SegmentId

namespace FailingSession

variable (env : Environment) (fuel : Nat) (options : LogStorageOptions)

/-- `Append`, when its calls come out so. -/
def append (session : FailingSession) (key value : List UInt8) (outcomes : List Outcome) :
    Option (Option SegmentIndex × FailingSession) :=
  match session.store.append env key value { files := session.files, outcomes } with
  | (some (index, store), world) => some (index, { session with store, files := world.files })
  | (none, _) => none

/-- A new object is initialised; no store when `Init` fails. -/
def open_ (files : Files FileName) (events : List SegmentId) : Option FailingSession :=
  match (LogSegmentStore.init env fuel {} options).run files with
  | (some (true, store), files) => some ⟨store, files, events⟩
  | _ => none

/-- The files that the next object is initialised on. -/
def closed (session : FailingSession) (how : Reopening) : Files FileName :=
  Session.closed ⟨session.store, session.files, []⟩ how

/-- One event; there is no store any more when `Init` fails. -/
def step (session : FailingSession) : FailingEvent → Option FailingSession
  | .append key value outcomes => (session.append env key value outcomes).map Prod.snd
  | .removeAsync segmentIndex =>
    match (LogSegmentStore.removeAsync segmentIndex).run session.files with
    | (some (_, events), files) => some { session with files, events := session.events ++ events }
    | (none, _) => none
  | .clean segmentId =>
    if segmentId ∈ session.events then
      match (LogSegmentStore.deleteSegment segmentId).run session.files with
      | (some _, files) => some { session with files, events := session.events.erase segmentId }
      | (none, _) => none
    else some session
  | .reopen how =>
    open_ env fuel options (session.closed how) (if how = .restarted then [] else session.events)

/-- `Append` returns true when its calls go through. -/
def Appends (session : FailingSession) (key value : List UInt8) : Prop :=
  ∃ index next, session.append env key value [] = some (some index, next)

/-- The record is read by its index, and the metadata file names the segment in use. -/
structure Appended (session : FailingSession) (entry : Entry) (index : SegmentIndex) : Prop where
  reads : Completes (session.store.read env index) session.files (some (entry.key, entry.value))
    session.files.Unchanged
  metadata : ∃ bytes, session.files.view .metadata = some bytes ∧
    NamesSegment env session.store.curSegmentId bytes

/-- The store and what it has open are as before, and so is the metadata file, and what could be
appended before can be appended then. -/
structure Untouched (before after : FailingSession) (key value : List UInt8) : Prop where
  store : after.store = before.store
  open_ : after.files.inodes before.store.curSegmentFd =
    before.files.inodes before.store.curSegmentFd
  metadata : after.files.view .metadata = before.files.view .metadata
  retry : before.Appends env key value → after.Appends env key value

/-- `Append` returns true and has appended the record, or returns false and has changed nothing. -/
def AllOrNothing (session : FailingSession) (key value : List UInt8) (outcomes : List Outcome) :
    Prop :=
  ∃ result next, session.append env key value outcomes = some (result, next) ∧
    match result with
    | some index => next.Appended env (recordOf env options key value) index
    | none => session.Untouched env next key value

/-- The next segment is started: the checksum stands in the metadata file, and all calls from
`ftruncate` to the write of a record of a size come out as they have to. -/
def StartsWhole (session : FailingSession) (size : Nat) (outcomes : List Outcome) : Prop :=
  let outcome := outcomes.getD 4 .succeeds
  let segment := session.files.view (.segment (session.store.curSegmentId + 1))
  ChecksumStands env ((session.files.view .metadata).getD []) (session.store.curSegmentId + 1)
      outcome ∧
    Meets (LogSegmentStore.startDemands outcome segment ++ [.runs, .moves size]) outcomes

/-- The name of the segment in use leads to the file that is open. -/
def InPlace (session : FailingSession) : Prop :=
  session.files.names (.segment session.store.curSegmentId) =
    session.files.inodes session.store.curSegmentFd

/-- `Append` that starts a segment starts it whole, unless `ftruncate` fails, and one that starts
none does not write the record whole where it cannot be found. -/
def Safe (session : FailingSession) : FailingEvent → Prop
  | .append _ value outcomes =>
    let size := 8 + (session.store.indexKeyLength + value.length)
    size ≤ session.store.segmentMaxSize →
      if session.store.Rolls value then
        outcomes.headD .succeeds = .fails ∨ session.StartsWhole env size outcomes
      else session.InPlace ∨ ¬ Meets [.runs, .moves size] outcomes
  | _ => True

instance (session : FailingSession) (size : Nat) (outcomes : List Outcome) :
    Decidable (session.StartsWhole env size outcomes) :=
  inferInstanceAs (Decidable (_ ∧ _))

instance (session : FailingSession) : Decidable session.InPlace :=
  inferInstanceAs (Decidable (_ = _))

instance (session : FailingSession) : ∀ event, Decidable (session.Safe env event)
  | .append _ _ _ => inferInstanceAs (Decidable (_ → ite _ _ _))
  | .removeAsync _ => .isTrue trivial
  | .clean _ => .isTrue trivial
  | .reopen _ => .isTrue trivial

end FailingSession

/-- A store on a disk after some events. -/
def failingRun (env : Environment) (fuel : Nat) (options : LogStorageOptions)
    (disk : Disk FileName) (events : List FailingEvent) : Option FailingSession :=
  Runs.run (fun state event => state.bind (FailingSession.step env fuel options · event))
    (FailingSession.open_ env fuel options disk.boot []) events

/-- No `Append` of a run loses a record or leaves a store without its segment. -/
def FailingSafeAlong (env : Environment) (fuel : Nat) (options : LogStorageOptions)
    (disk : Disk FileName) (events : List FailingEvent) : Prop :=
  Runs.Along (fun state event => state.bind (FailingSession.step env fuel options · event))
    (fun state event => ∀ session ∈ state, session.Safe env event)
    (FailingSession.open_ env fuel options disk.boot []) events

/-- Each `Append` of a run is all or nothing. -/
def AllOrNothingAlong (env : Environment) (fuel : Nat) (options : LogStorageOptions)
    (disk : Disk FileName) (events : List FailingEvent) : Prop :=
  Runs.Along (fun state event => state.bind (FailingSession.step env fuel options · event))
    (fun state event => ∀ session ∈ state, ∀ key value outcomes,
      event = .append key value outcomes → session.AllOrNothing env options key value outcomes)
    (FailingSession.open_ env fuel options disk.boot []) events

instance (env : Environment) (fuel : Nat) (options : LogStorageOptions) (disk : Disk FileName)
    (events : List FailingEvent) : Decidable (FailingSafeAlong env fuel options disk events) :=
  inferInstanceAs (Decidable (Runs.Along _ _ _ _))

variable {env : Environment} {fuel : Nat} {options : LogStorageOptions} {disk : Disk FileName}
  {store : LogSegmentStore} {files after : Files FileName} {segmentId : SegmentId}
  {inode inode' metaInode offset : Nat} {bytes : List UInt8}

/-- The number of a segment and its checksum name it. -/
theorem NamesSegment.updated (env : Environment) (old : List UInt8) (segmentId : SegmentId) :
    NamesSegment env segmentId (metadataOf old segmentId (checksumBytes env segmentId)) where
  decodes := decodeMetadata_updated old segmentId
  checksum _ := by
    have eight : (checksumBytes env segmentId).length = 8 := by simp [checksumBytes]
    rw [metadataOf, List.drop_left' (length_idBytes segmentId), ← eight, List.take_left]

/-- The metadata file names the next segment exactly when its checksum stands there. -/
theorem namesSegment_iff_stands (old : List UInt8) (segmentId : SegmentId) (outcome : Outcome) :
    NamesSegment env segmentId (metadataOf old segmentId
        (outcome.moved (checksumBytes env segmentId))) ↔
      ChecksumStands env old segmentId outcome := by
  constructor
  · intro names
    have eight : (checksumBytes env segmentId).length = 8 := by simp [checksumBytes]
    have filled : metadataOf old segmentId (outcome.moved (checksumBytes env segmentId)) ≠ [] :=
      fun empty => by
        have length := congrArg List.length empty
        simp [metadataOf] at length
    have few := outcome.length_moved_le (checksumBytes env segmentId)
    have sum := names.checksum filled
    rw [metadataOf, List.drop_left' (length_idBytes segmentId)] at sum
    rw [ChecksumStands, metadataOf, metadataOf, eight]
    generalize outcome.moved (checksumBytes env segmentId) = moved at few sum
    have rest : (moved ++ old.drop (4 + moved.length)).drop 8 = old.drop (4 + 8) := by
      rw [List.drop_append, List.drop_of_length_le (by omega), List.nil_append, List.drop_drop]
      congr 1
      omega
    rw [← sum, ← rest, List.take_append_drop]
  · intro stands
    rw [stands]
    exact NamesSegment.updated env old segmentId

/-! ## The disk -/

/-- The metadata file names a segment, and no segment is too long. -/
structure OnDisk (env : Environment) (options : LogStorageOptions) (segmentId : SegmentId)
    (disk : Disk FileName) : Prop where
  sound : disk.Sound
  path : disk.path ≠ .other
  metadata : ∃ bytes, disk.view .metadata = some bytes ∧ NamesSegment env segmentId bytes
  short : ∀ id bytes, disk.view (.segment id) = some bytes → bytes.length ≤ options.segmentMaxSize

namespace OnDisk

/-- A file other than the metadata file may have other bytes. -/
theorem withContents (onDisk : OnDisk env options segmentId disk)
    (apart : disk.names .metadata ≠ some inode) (fits : bytes.length ≤ options.segmentMaxSize) :
    OnDisk env options segmentId (disk.withContents inode bytes) where
  sound := onDisk.sound.withContents inode bytes
  path := onDisk.path
  metadata := by
    rw [Disk.view_withContents_of_ne apart]
    exact onDisk.metadata
  short id seen found := by
    by_cases here : disk.names (.segment id) = some inode
    · rw [Disk.view_of_name (by simpa using here), Disk.withContents_same] at found
      rw [← Option.some.inj found]
      exact fits
    · rw [Disk.view_withContents_of_ne here] at found
      exact onDisk.short id seen found

/-- The metadata file may name another segment. -/
theorem renamed (onDisk : OnDisk env options segmentId disk)
    (named : disk.names .metadata = some inode) {other : SegmentId}
    (names : NamesSegment env other bytes) :
    OnDisk env options other (disk.withContents inode bytes) where
  sound := onDisk.sound.withContents inode bytes
  path := onDisk.path
  metadata := ⟨bytes, by
    rw [Disk.view_of_name (by simpa using named), Disk.withContents_same], names⟩
  short id seen found := by
    have apart : disk.names (.segment id) ≠ some inode := fun same =>
      FileName.noConfusion (onDisk.sound.single _ _ _ same named)
    rw [Disk.view_withContents_of_ne apart] at found
    exact onDisk.short id seen found

/-- A segment may be opened, and created if it has no file. -/
theorem openedAs (onDisk : OnDisk env options segmentId files.toDisk) {id : SegmentId}
    (opened : files.OpenedAs (.segment id) inode after) :
    OnDisk env options segmentId after.toDisk where
  sound := opened.sound.toSound
  path := by
    rw [opened.path]
    exact onDisk.path
  metadata := by
    rw [opened.view, Function.update_of_ne FileName.noConfusion]
    exact onDisk.metadata
  short other seen found := by
    rw [opened.view] at found
    by_cases same : FileName.segment other = .segment id
    · rw [same, Function.update_self] at found
      cases there : files.view (.segment id) with
      | none =>
        rw [there] at found
        rw [← Option.some.inj found]
        exact Nat.zero_le _
      | some old =>
        rw [there] at found
        rw [← Option.some.inj found]
        exact onDisk.short id old there
    · rw [Function.update_of_ne same] at found
      exact onDisk.short other seen found

/-- A segment may be deleted. -/
theorem without (onDisk : OnDisk env options segmentId disk) (id : SegmentId) :
    OnDisk env options segmentId (disk.without (.segment id)) where
  sound := onDisk.sound.without _
  path := onDisk.path
  metadata := by
    rw [Disk.view_without, Function.update_of_ne FileName.noConfusion]
    exact onDisk.metadata
  short other seen found := by
    rw [Disk.view_without] at found
    by_cases same : FileName.segment other = .segment id
    · rw [same, Function.update_self] at found
      cases found
    · rw [Function.update_of_ne same] at found
      exact onDisk.short other seen found

end OnDisk

/-- A store that can append: it has the segment in use and the metadata file open, which names that
segment. The open segment has the name of the segment in use or none, and what has that name instead
is empty. -/
structure Ready (env : Environment) (options : LogStorageOptions) (store : LogSegmentStore)
    (files : Files FileName) (inode metaInode offset : Nat) : Prop
    extends OnDisk env options store.curSegmentId files.toDisk where
  intact : files.Sound
  keyLength : store.indexKeyLength = options.indexKeyLength
  maxSize : store.segmentMaxSize = options.segmentMaxSize
  position : store.curSegmentOffset = offset
  inside : offset ≤ options.segmentMaxSize
  fileSize : store.curSegmentFileSize ≤ options.segmentMaxSize
  length : (files.contents inode).length ≤ options.segmentMaxSize
  opened : files.inodes store.curSegmentFd = some inode
  metaOpened : files.inodes store.metaFd = some metaInode
  metaNamed : files.names .metadata = some metaInode
  own : ∀ name, files.names name = some inode → name = .segment store.curSegmentId
  place : files.names (.segment store.curSegmentId) = some inode ∨
    ∀ other, files.names (.segment store.curSegmentId) = some other → files.contents other = []

namespace Ready

/-- The metadata file is not the open segment. -/
theorem apart (ready : Ready env options store files inode metaInode offset) : metaInode ≠ inode :=
  fun same => FileName.noConfusion (ready.own .metadata (same ▸ ready.metaNamed))

/-- The files may stay as they are. -/
theorem unchanged (ready : Ready env options store files inode metaInode offset)
    (same : files.Unchanged after) : Ready env options store after inode metaInode offset where
  toOnDisk := by
    rw [same.disk]
    exact ready.toOnDisk
  intact := same.sound ready.intact
  keyLength := ready.keyLength
  maxSize := ready.maxSize
  position := ready.position
  inside := ready.inside
  fileSize := ready.fileSize
  length := by
    rw [same.disk]
    exact ready.length
  opened := by
    rw [same.open_]
    exact ready.opened
  metaOpened := by
    rw [same.open_]
    exact ready.metaOpened
  metaNamed := by
    rw [same.disk]
    exact ready.metaNamed
  own := by
    rw [same.disk]
    exact ready.own
  place := by
    rw [same.disk]
    exact ready.place

/-- The segment in use may have other bytes. -/
theorem written (ready : Ready env options store files inode metaInode offset)
    (fits : bytes.length ≤ options.segmentMaxSize) :
    Ready env options store (files.withContents inode bytes) inode metaInode offset where
  toOnDisk := ready.toOnDisk.withContents
    (fun same => ready.apart (Option.some.inj (ready.metaNamed.symm.trans same))) fits
  intact := ready.intact.withContents inode bytes
  keyLength := ready.keyLength
  maxSize := ready.maxSize
  position := ready.position
  inside := ready.inside
  fileSize := ready.fileSize
  length := by
    rw [Files.withContents_toDisk, Disk.withContents_same]
    exact fits
  opened := ready.opened
  metaOpened := ready.metaOpened
  metaNamed := ready.metaNamed
  own := ready.own
  place := by
    by_cases here : files.names (.segment store.curSegmentId) = some inode
    · exact .inl here
    · refine .inr fun other named => ?_
      have apart : other ≠ inode := fun same => here (same ▸ named)
      rw [Files.withContents_toDisk, Disk.withContents_other _ apart]
      exact ready.place.resolve_left here other named

/-- A descriptor of another file may be closed. -/
theorem closed (ready : Ready env options store files inode metaInode offset) {fd : FD}
    (apart : store.curSegmentFd ≠ fd) (metaApart : store.metaFd ≠ fd) :
    Ready env options store (files.withDescriptor fd none) inode metaInode offset where
  toOnDisk := ready.toOnDisk
  intact := ready.intact.closed fd
  keyLength := ready.keyLength
  maxSize := ready.maxSize
  position := ready.position
  inside := ready.inside
  fileSize := ready.fileSize
  length := ready.length
  opened := by
    rw [Files.withDescriptor_inodes, Function.update_of_ne apart]
    exact ready.opened
  metaOpened := by
    rw [Files.withDescriptor_inodes, Function.update_of_ne metaApart]
    exact ready.metaOpened
  metaNamed := ready.metaNamed
  own := ready.own
  place := ready.place

/-- An open file has no descriptor that is to come. -/
theorem given (ready : Ready env options store files inode metaInode offset) :
    store.curSegmentFd ≠ files.nextDescriptor ∧ store.metaFd ≠ files.nextDescriptor := by
  have unopened := ready.intact.unopened files.nextDescriptor le_rfl
  refine ⟨fun same => ?_, fun same => ?_⟩
  · rw [← same, ready.opened] at unopened
    cases unopened
  · rw [← same, ready.metaOpened] at unopened
    cases unopened

/-- A segment may be opened, and created if it has no file. -/
theorem openedAs (ready : Ready env options store files inode metaInode offset) {id : SegmentId}
    {other : Nat} (opened : files.OpenedAs (.segment id) other after)
    (old : ∀ inode, files.names (.segment id) = some inode → inode = other) :
    Ready env options store after inode metaInode offset where
  toOnDisk := ready.toOnDisk.openedAs opened
  intact := opened.sound
  keyLength := ready.keyLength
  maxSize := ready.maxSize
  position := ready.position
  inside := ready.inside
  fileSize := ready.fileSize
  length := by
    rw [opened.kept inode (ready.intact.opens _ _ ready.opened)]
    exact ready.length
  opened := by
    rw [opened.open_, Function.update_of_ne ready.given.1]
    exact ready.opened
  metaOpened := by
    rw [opened.open_, Function.update_of_ne ready.given.2]
    exact ready.metaOpened
  metaNamed := by
    rw [opened.names, Function.update_of_ne FileName.noConfusion]
    exact ready.metaNamed
  own name named := by
    rw [opened.names] at named
    by_cases here : name = .segment id
    · rw [here, Function.update_self] at named
      obtain rfl := Option.some.inj named
      cases there : files.names (.segment id) with
      | none =>
        have created := ready.intact.opens _ _ ready.opened
        exact absurd (opened.fresh there) (Nat.not_le_of_lt created)
      | some was =>
        rw [← old was there] at *
        rw [here]
        exact ready.own _ there
    · rw [Function.update_of_ne here] at named
      exact ready.own name named
  place := by
    by_cases same : FileName.segment store.curSegmentId = .segment id
    · rw [opened.names, same, Function.update_self]
      by_cases here : files.names (.segment id) = some inode
      · exact .inl (congrArg some (old inode here).symm)
      · refine .inr fun now named => ?_
        obtain rfl := Option.some.inj named
        rw [opened.contents]
        cases there : files.names (.segment id) with
        | none => rw [Disk.view_eq_none.mpr there, Option.getD_none]
        | some was =>
          have empty := (same ▸ ready.place).resolve_left here was there
          rw [Disk.view_of_name there, empty, Option.getD_some]
    · rw [opened.names, Function.update_of_ne same]
      refine ready.place.imp_right fun empty now named => ?_
      rw [opened.kept now (ready.sound.named _ _ named)]
      exact empty now named

/-- A segment may be deleted. -/
theorem without (ready : Ready env options store files inode metaInode offset) (id : SegmentId) :
    Ready env options store { files with toDisk := files.toDisk.without (.segment id) } inode
      metaInode offset where
  toOnDisk := ready.toOnDisk.without id
  intact := ready.intact.removed _
  keyLength := ready.keyLength
  maxSize := ready.maxSize
  position := ready.position
  inside := ready.inside
  fileSize := ready.fileSize
  length := ready.length
  opened := ready.opened
  metaOpened := ready.metaOpened
  metaNamed := (files.toDisk.without_names_of_ne FileName.noConfusion).trans ready.metaNamed
  own name named := ready.own name (Disk.names_of_without named).2
  place := by
    by_cases same : FileName.segment store.curSegmentId = .segment id
    · refine .inr fun other named => ?_
      rw [same] at named
      exact absurd rfl (Disk.names_of_without named).1
    · have kept : (files.toDisk.without (.segment id)).names (.segment store.curSegmentId) =
        files.names (.segment store.curSegmentId) := files.toDisk.without_names_of_ne same
      rw [kept]
      exact ready.place

/-- `RemoveAsync`, whatever index it is called with. -/
theorem removeAsync_secures (ready : Ready env options store files inode metaInode offset)
    (index : SegmentIndex) : Secures (LogSegmentStore.removeAsync index) files (fun _ => True)
      fun _ after => Ready env options store after inode metaInode offset := by
  rw [LogSegmentStore.removeAsync]
  rcases LogSegmentStore.parseSegmentIndex index with ⟨id, place, checksum⟩
  dsimp only
  refine (Secures.openFile_create trivial ready.intact).bind fun fd opened result => ?_
  obtain ⟨rfl, rfl⟩ | ⟨rfl, other, old, openedAs⟩ := result
  · exact Secures.pure ready
  have there := ready.openedAs openedAs old
  rw [if_neg (natCast_ne_failed _)]
  have finish {after : Files FileName} (result : Bool × List SegmentId)
      (moved : opened.Moved after) :
      Secures (do Posix.close files.nextDescriptor; pure result) after (fun _ => True)
        fun _ after => Ready env options store after inode metaInode offset := by
    refine (Secures.close trivial).bind fun _ closed equal => Secures.pure ?_
    rw [equal]
    exact (there.unchanged moved.unchanged).closed ready.given.1 ready.given.2
  refine (Secures.lseek_start trivial _).bind ?_
  rintro pos sought ⟨moved, -⟩
  refine Secures.ite (fun _ => finish _ moved) fun _ => ?_
  refine (Secures.read_moves trivial _).bind fun kvSize read moved' => ?_
  refine Secures.ite (fun _ => finish _ (moved.trans moved')) fun _ => ?_
  refine (Secures.lseek_finish trivial).bind ?_
  rintro last sought' ⟨moved'', -⟩
  exact finish _ ((moved.trans moved').trans moved'')

/-- The metadata file of the store. -/
theorem view_metadata (ready : Ready env options store files inode metaInode offset) :
    files.view .metadata = some (files.contents metaInode) :=
  Disk.view_of_name ready.metaNamed

/-- The file of the next segment is neither of those that are open. -/
theorem next_apart (ready : Ready env options store files inode metaInode offset) :
    files.names (.segment (store.curSegmentId + 1)) ≠ some inode ∧
      files.names (.segment (store.curSegmentId + 1)) ≠ some metaInode := by
  refine ⟨fun named => ?_, fun named => ?_⟩
  · have same : store.curSegmentId + 1 = store.curSegmentId :=
      FileName.segment.inj (ready.own _ named)
    simp at same
  · exact FileName.noConfusion (ready.sound.single _ _ _ named ready.metaNamed)

/-- The file of the next segment is not too long. -/
theorem length_next (ready : Ready env options store files inode metaInode offset) :
    ((files.view (.segment (store.curSegmentId + 1))).getD []).length ≤ options.segmentMaxSize := by
  cases seen : files.view (.segment (store.curSegmentId + 1)) with
  | none => exact Nat.zero_le _
  | some bytes => exact ready.short _ _ seen

/-- A store that has started a segment behind a metadata file that names it can append. -/
theorem started (ready : Ready env options store files inode metaInode offset)
    {metadata : List UInt8} (names : NamesSegment env (store.curSegmentId + 1) metadata)
    (started : store.Started (LogSegmentStore.cutSegment store files inode offset) metaInode
      metadata after) (named : after.names (.segment (store.curSegmentId + 1)) = some inode') :
    let segment := (files.view (.segment (store.curSegmentId + 1))).getD []
    Ready env options (store.startedStore files.nextDescriptor (store.paddedBytes segment).length)
      after inode' metaInode 0 := by
  intro segment
  let cut := LogSegmentStore.cutSegment store files inode offset
  let updated := cut.withContents metaInode metadata
  obtain ⟨other, opened, openedAs, moved⟩ := started
  obtain rfl : other = inode' := by
    rw [moved.disk] at named
    exact Option.some.inj (openedAs.named.symm.trans named)
  have apart : files.names .metadata ≠ some inode := fun same =>
    ready.apart (Option.some.inj (ready.metaNamed.symm.trans same))
  have onDisk : OnDisk env options store.curSegmentId cut.toDisk :=
    ready.toOnDisk.withContents apart (by rw [length_resize]; exact ready.inside)
  have renamed : OnDisk env options (store.curSegmentId + 1) updated.toDisk :=
    onDisk.renamed ready.metaNamed names
  have metaNamed : opened.names .metadata = some metaInode := by
    rw [openedAs.names, Function.update_of_ne FileName.noConfusion]
    exact ready.metaNamed
  have fds : store.metaFd ≠ store.curSegmentFd := fun same => by
    have opened := ready.metaOpened
    rw [same, ready.opened] at opened
    exact ready.apart (Option.some.inj opened).symm
  have metaOpened : cut.inodes store.metaFd = some metaInode := by
    simp [cut, LogSegmentStore.cutSegment, fds, ready.metaOpened]
  have contents : opened.contents other = segment := by
    have cutSeen : cut.view (.segment (store.curSegmentId + 1)) =
        files.view (.segment (store.curSegmentId + 1)) :=
      Disk.view_withContents_of_ne ready.next_apart.1 _
    have apart : cut.names (.segment (store.curSegmentId + 1)) ≠ some metaInode :=
      ready.next_apart.2
    have seen : updated.view (.segment (store.curSegmentId + 1)) =
        cut.view (.segment (store.curSegmentId + 1)) := Disk.view_withContents_of_ne apart _
    rw [openedAs.contents]
    exact congrArg (Option.getD · []) (seen.trans cutSeen)
  have length : (store.paddedBytes segment).length ≤ options.segmentMaxSize := by
    rw [LogSegmentStore.paddedBytes]
    split
    · rw [List.length_replicate]
      exact ready.maxSize.le
    · exact ready.length_next
  have single := openedAs.sound.single
  rw [contents] at moved
  have ready : Ready env options
      (store.startedStore files.nextDescriptor (store.paddedBytes segment).length)
      (opened.withContents other (store.paddedBytes segment)) other metaInode 0 :=
    ⟨?onDisk, openedAs.sound.withContents _ _, ready.keyLength, ready.maxSize, rfl, Nat.zero_le _,
      length, ?filled, ?opened, ?metaOpened, metaNamed, fun name here =>
        single _ _ _ here openedAs.named, .inl openedAs.named⟩
  exact ready.unchanged moved.unchanged
  case onDisk =>
    refine (renamed.openedAs openedAs).withContents (fun same => ?_) length
    exact FileName.noConfusion (single _ _ _ same openedAs.named)
  case filled =>
    rw [Files.withContents_toDisk, Disk.withContents_same]
    exact length
  case opened =>
    exact (congrFun openedAs.open_ _).trans (Function.update_self ..)
  case metaOpened =>
    have kept := (congrFun openedAs.open_ _).trans (Function.update_of_ne ready.given.2 _ _)
    exact kept.trans metaOpened

/-- The size of a record. -/
theorem size_record (ready : Ready env options store files inode metaInode offset)
    (key value : List UInt8) :
    (recordOf env options key value).size = 8 + (store.indexKeyLength + value.length) := by
  rw [ready.keyLength, Entry.size, Entry.body, recordOf, List.length_append,
    Environment.length_copied]

/-- A store can append behind the bytes that it has written. -/
theorem behind (ready : Ready env options store files inode metaInode offset)
    (fits : offset + bytes.length ≤ options.segmentMaxSize)
    (moved : (files.withContents inode (writeAt (files.contents inode) offset bytes)).Moved after) :
    Ready env options store after inode metaInode offset :=
  (ready.written (length_writeAt_le ready.length fits)).unchanged moved.unchanged

/-- A store can append behind a record that it has written. -/
theorem wrote (ready : Ready env options store files inode metaInode offset) (entry : Entry)
    (fits : offset + entry.size ≤ options.segmentMaxSize)
    (moved : (files.withContents inode (writeAt (files.contents inode) offset
      (frame 8 entry.body))).Moved after) :
    Ready env options { store with curSegmentOffset := ((offset + entry.size : Nat) : Int) } after
      inode metaInode (offset + entry.size) :=
  { ready.behind (by rw [length_frame_body]; exact fits) moved with
    position := rfl
    inside := fits }

/-- A record that has been written to a segment that has its name is read by its index. -/
theorem appended (usable : options.Usable)
    (ready : Ready env options store files inode metaInode offset)
    (named : files.names (.segment store.curSegmentId) = some inode) (key value : List UInt8)
    (fits : offset + (recordOf env options key value).size ≤ options.segmentMaxSize)
    (moved : (files.withContents inode (writeAt (files.contents inode) offset
      (frame 8 (recordOf env options key value).body))).Moved after) (events : List SegmentId) :
    let entry := recordOf env options key value
    FailingSession.Appended env
      ⟨{ store with curSegmentOffset := ((offset + entry.size : Nat) : Int) }, after, events⟩ entry
      (LogSegmentStore.toSegmentIndex store.curSegmentId offset (env.crc32 entry.body).toNat) := by
  intro entry
  have small := usable.small
  have same := ready.wrote entry fits moved
  have named' : after.names (.segment store.curSegmentId) = some inode := by
    rw [moved.disk]
    exact named
  have record : (after.contents inode).drop offset = frame 8 entry.body ++
      (files.contents inode).drop (offset + (frame 8 entry.body).length) := by
    rw [moved.disk, Files.withContents_toDisk, Disk.withContents_same]
    exact drop_writeAt _ _ _ (by simp [frame, littleEndian])
  have keyLength : entry.key.length = store.indexKeyLength := by
    rw [ready.keyLength]
    exact Environment.length_copied ..
  have body : entry.body.length < 2 ^ 63 := by
    have size : (recordOf env options key value).size = 8 + entry.body.length := rfl
    omega
  exact ⟨LogSegmentStore.read_record same.intact named' record keyLength (by omega) body,
    same.metadata⟩

/-- A record that has been written to a segment without its name is not read by its index. -/
theorem lost (usable : options.Usable)
    (ready : Ready env options store files inode metaInode offset)
    (unnamed : files.names (.segment store.curSegmentId) ≠ some inode) (entry : Entry)
    (moved : (files.withContents inode (writeAt (files.contents inode) offset
      (frame 8 entry.body))).Moved after) (events : List SegmentId) (store' : LogSegmentStore) :
    ¬ FailingSession.Appended env ⟨store', after, events⟩ entry
      (LogSegmentStore.toSegmentIndex store.curSegmentId offset (env.crc32 entry.body).toNat) := by
  rintro ⟨reads, -⟩
  have small := usable.small
  have inside := ready.inside
  have empty : ∀ other, after.names (.segment store.curSegmentId) = some other →
      after.contents other = [] := by
    intro other named
    rw [moved.disk] at named ⊢
    have apart : other ≠ inode := fun same => unnamed (same ▸ named)
    rw [Files.withContents_toDisk, Disk.withContents_other _ apart]
    exact ready.place.resolve_left unnamed other named
  have sum : (env.crc32 entry.body).toNat < 2 ^ 64 := by
    have sum := (env.crc32 entry.body).toNat_lt
    omega
  have near : offset < 2 ^ 63 := by omega
  have misses : Secures (LogSegmentStore.read env store' (LogSegmentStore.toSegmentIndex
      store.curSegmentId offset (env.crc32 entry.body).toNat)) after (fun _ => True)
      fun result _ => result = none := LogSegmentStore.read_secures_none near sum empty
  obtain ⟨files', ran, -⟩ := reads.run
  cases misses.ensures.run ran

/-- The key as `Append` copies it. -/
theorem copies (ready : Ready env options store files inode metaInode offset)
    (key value : List UInt8) : env.copied (key ++ [0]) store.indexKeyLength =
      (recordOf env options key value).key := by
  rw [ready.keyLength]
  rfl

/-- A record for which there is room fits behind the bytes of the segment in use. -/
theorem fits_of_room (usable : options.Usable)
    (ready : Ready env options store files inode metaInode offset) {value : List UInt8}
    (fits : 8 + (store.indexKeyLength + value.length) ≤ store.segmentMaxSize)
    (room : ¬ store.Rolls value) :
    offset + (8 + (store.indexKeyLength + value.length)) ≤ store.curSegmentFileSize := by
  have small := usable.small
  have inside := ready.inside
  have maxSize := ready.maxSize
  have cast : (offset : Int) + ((8 + (store.indexKeyLength + value.length) : Nat) : Int) =
      ((offset + (8 + (store.indexKeyLength + value.length)) : Nat) : Int) := by
    push_cast
    rfl
  have enough : ¬ _ := fun full => room ⟨fits, full⟩
  rw [ready.position, cast, sizeT_of_lt (by omega), not_lt] at enough
  exact enough

/-- `Append` of a record for which there is room. -/
theorem append_room (ready : Ready env options store files inode metaInode offset)
    {value : List UInt8} (fits : 8 + (store.indexKeyLength + value.length) ≤ store.segmentMaxSize)
    (room : ¬ store.Rolls value) (key : List UInt8) (outcomes : List Outcome) :
    let entry := recordOf env options key value
    Settles (store.append env key value) files outcomes [.runs, .moves entry.size]
      (some (LogSegmentStore.toSegmentIndex store.curSegmentId offset (env.crc32 entry.body).toNat),
        { store with curSegmentOffset := ((offset + entry.size : Nat) : Int) })
      (files.withContents inode
        (writeAt (files.contents inode) offset (frame 8 entry.body))).Moved
      fun result after => result = (none, store) ∧ ∃ written, written.length ≤ entry.size ∧
        (files.withContents inode (writeAt (files.contents inode) offset written)).Moved after := by
  intro entry
  have enough : ¬ _ := fun full => room ⟨fits, full⟩
  have writes : Settles (store.writeRecord env key entry.value) files outcomes _ _ _ _ :=
    LogSegmentStore.writeRecord_settles ready.position ready.opened (ready.copies key value)
  rw [LogSegmentStore.append, if_neg (not_lt.mpr fits), LogSegmentStore.makeRoom, if_neg enough]
  exact writes

/-- `Append` of a record for which it starts the next segment, once `ftruncate` has gone through. -/
theorem append_rolls (usable : options.Usable)
    (ready : Ready env options store files inode metaInode offset) {value : List UInt8}
    (rolls : store.Rolls value) {outcomes : List Outcome}
    (cuts : outcomes.headD .succeeds ≠ .fails) (key : List UInt8) :
    let entry := recordOf env options key value
    let outcome := outcomes.getD 4 .succeeds
    let segment := files.view (.segment (store.curSegmentId + 1))
    Settles (store.append env key value) files outcomes
      (LogSegmentStore.startDemands outcome segment ++ [.runs, .moves entry.size])
      (some (LogSegmentStore.toSegmentIndex (store.curSegmentId + 1) 0
          (env.crc32 entry.body).toNat),
        { store.startedStore files.nextDescriptor (store.paddedBytes (segment.getD [])).length with
          curSegmentOffset := ((0 + entry.size : Nat) : Int) })
      (fun after => ∃ inode' middle,
        store.Started (LogSegmentStore.cutSegment store files inode offset) metaInode
          (store.updatedMetadata env (files.contents metaInode) outcome) middle ∧
        middle.names (.segment (store.curSegmentId + 1)) = some inode' ∧
        (middle.withContents inode' (writeAt (middle.contents inode') 0
          (frame 8 entry.body))).Moved after)
      fun result after => result.1 = none ∧ store.Stranded result.2 after := by
  intro entry outcome segment
  have positive := usable.positive
  have small := usable.small
  have maxSize := ready.maxSize
  have length := ready.length_next
  have made : Settles (store.makeRoom env (8 + (store.indexKeyLength + value.length))) files
      outcomes _ _ _ _ :=
    LogSegmentStore.makeRoom_settles ready.position rolls.2 ready.intact ready.opened
      ready.metaOpened ready.apart ready.next_apart.1 ready.next_apart.2 (by omega) (by omega)
      (by omega) cuts
  rw [LogSegmentStore.append, if_neg (not_lt.mpr rolls.1)]
  refine made.bind ?_ fun middle started => ?_
  · rintro ⟨_, result⟩ after ⟨rfl, stranded⟩
    exact Ends.pure ⟨rfl, stranded⟩
  dsimp only
  rw [if_neg (by simp)]
  obtain ⟨inode', here, named⟩ := started.opened
  let next := store.startedStore files.nextDescriptor (store.paddedBytes (segment.getD [])).length
  have start : next.curSegmentOffset = (0 : Nat) := rfl
  have writes (outcomes : List Outcome) : Settles (next.writeRecord env key entry.value) middle
      outcomes _ _ _ _ :=
    LogSegmentStore.writeRecord_settles start here (ready.copies key value)
  refine (writes _).imp (fun after moved => ⟨inode', middle, started, named, moved⟩) ?_
  rintro _ after ⟨rfl, -⟩
  exact ⟨rfl, .inl rfl⟩

end Ready

/-- The end of `Init`. -/
theorem openCurrent_ensures (usable : options.Usable) (fuel : Nat)
    (onDisk : OnDisk env options store.curSegmentId files.toDisk) (intact : files.Sound)
    (keyLength : store.indexKeyLength = options.indexKeyLength)
    (metaOpened : files.inodes store.metaFd = some metaInode)
    (metaNamed : files.names .metadata = some metaInode) :
    Ensures (LogSegmentStore.openCurrent env fuel store options) files fun result after =>
      result.1 = true →
        ∃ inode offset, Ready env options result.2 after inode metaInode offset := by
  have small := usable.small
  rw [LogSegmentStore.openCurrent, LogSegmentStore.openSegment]
  refine (intact.openFile_create (.segment store.curSegmentId)).ensures fun opened found => ?_
  obtain ⟨inode, openedAs⟩ := found
  rw [if_neg (natCast_ne_failed _)]
  have here : opened.inodes files.nextDescriptor = some inode := by
    rw [openedAs.open_, Function.update_self]
  have metaNamed' : opened.names .metadata = some metaInode := by
    rw [openedAs.names, Function.update_of_ne FileName.noConfusion]
    exact metaNamed
  have apart : metaInode ≠ inode := fun same => by
    have named := openedAs.named
    rw [← same] at named
    exact FileName.noConfusion (openedAs.sound.single _ _ _ named metaNamed')
  have onDisk' := onDisk.openedAs openedAs
  have length := onDisk'.short _ _ (Disk.view_of_name openedAs.named)
  have metaOpened' : opened.inodes store.metaFd = some metaInode := by
    have given : store.metaFd ≠ files.nextDescriptor := fun same => by
      have unopened := intact.unopened _ (le_of_eq same.symm)
      rw [metaOpened] at unopened
      cases unopened
    rw [openedAs.open_, Function.update_of_ne given]
    exact metaOpened
  have ready (size position : Nat) (cleaning : Bool) (fits : size ≤ options.segmentMaxSize)
      (inside : position ≤ options.segmentMaxSize) : Ready env options { store with
        curSegmentFd := files.nextDescriptor
        curSegmentOffset := position
        curSegmentFileSize := size
        segmentMaxSize := options.segmentMaxSize
        cleaning } opened inode metaInode position :=
    ⟨onDisk', openedAs.sound, keyLength, rfl, rfl, inside, fits, length, here, metaOpened',
      metaNamed', fun name named => openedAs.sound.single _ _ _ named openedAs.named,
      .inl openedAs.named⟩
  by_cases empty : opened.contents inode = []
  · have pad : Achieves (LogSegmentStore.paddingIfNewSegment { store with
        curSegmentFd := files.nextDescriptor, segmentMaxSize := options.segmentMaxSize })
        opened _ _ _ :=
      LogSegmentStore.paddingIfNewSegment_new here empty usable.positive (by dsimp only; omega)
    refine Completes.ensures ⟨_, pad⟩ fun padded moved => ?_
    dsimp only
    rw [if_neg (by decide), if_pos rfl]
    have whole := ready options.segmentMaxSize 0 options.removeAsync le_rfl (Nat.zero_le _)
    have there := (whole.written List.length_replicate.le).unchanged moved.unchanged
    obtain ⟨position, stands⟩ := Files.descriptor_of_inode there.opened
    refine (Performs.lseek stands 0).completes.ensures fun middle same => ?_
    rw [if_neg (by decide)]
    refine Ensures.pure fun _ => ⟨inode, 0, ?_⟩
    rw [same]
    exact there.unchanged (Files.moved_of_inode there.opened 0).unchanged
  · have pad : Achieves (LogSegmentStore.paddingIfNewSegment { store with
        curSegmentFd := files.nextDescriptor, segmentMaxSize := options.segmentMaxSize })
        opened _ _ _ :=
      LogSegmentStore.paddingIfNewSegment_old here empty (by omega)
    refine Completes.ensures ⟨_, pad⟩ fun padded moved => ?_
    dsimp only
    rw [if_neg (by decide), if_neg (by decide)]
    have named : padded.names (.segment store.curSegmentId) = some inode := by
      rw [moved.disk]
      exact openedAs.named
    have contents : padded.contents = opened.contents := congrArg Disk.contents moved.disk
    have short : (padded.contents inode).length < 2 ^ 31 := by
      rw [contents]
      omega
    refine Secures.ensures ((LogSegmentStore.replaySegment_secures env _
      (moved.unchanged.sound openedAs.sound) named short fuel (Nat.zero_le _)).bind ?_)
    rintro ⟨replayRes, offset⟩ after ⟨same, comes⟩
    refine Secures.ite (fun _ => Secures.stop trivial) fun passed => Secures.pure fun _ => ?_
    obtain ⟨last, rfl, inside⟩ := comes (by simpa using passed)
    rw [contents] at inside
    exact ⟨inode, last, (ready _ last options.removeAsync length (inside.trans length)).unchanged
      (moved.unchanged.trans same)⟩

/-- `Init` on a disk whose metadata file is empty or names a segment. -/
theorem init_ensures (usable : options.Usable) (fuel : Nat) (sound : files.Sound)
    (path : files.path ≠ .other)
    (names : NamesSegment env segmentId ((files.view .metadata).getD []))
    (short : ∀ id bytes, files.view (.segment id) = some bytes →
      bytes.length ≤ options.segmentMaxSize) :
    Ensures (LogSegmentStore.init env fuel {} options) files fun result after =>
      result.1 = true →
        ∃ inode metaInode offset, Ready env options result.2 after inode metaInode offset := by
  refine init_through (fun program files => Ensures program files fun result after =>
      result.1 = true →
        ∃ inode metaInode offset, Ready env options result.2 after inode metaInode offset)
    (fun completes => completes.ensures) usable.keys sound path
    fun store after metaInode keyLength opened => ?_
  rw [names.decodes]
  dsimp only
  have metadata : after.view .metadata = some ((files.view .metadata).getD []) := by
    rw [opened.view, Function.update_self]
  have onDisk : OnDisk env options segmentId after.toDisk := by
    refine ⟨opened.sound.toSound, ?_, ⟨_, metadata, names⟩, fun id bytes seen => ?_⟩
    · rw [opened.path]
      exact PathKind.noConfusion
    · rw [opened.view, Function.update_of_ne FileName.noConfusion] at seen
      exact short id bytes seen
  have ends : Ensures (LogSegmentStore.openCurrent env fuel { store with curSegmentId := segmentId }
      options) after _ :=
    openCurrent_ensures usable fuel onDisk opened.sound keyLength opened.opened opened.named
  refine ends.imp fun result after holds passed => ?_
  obtain ⟨inode, offset, ready⟩ := holds passed
  exact ⟨inode, metaInode, offset, ready⟩

namespace FailingSession

variable {session : FailingSession} {key value : List UInt8} {outcomes : List Outcome}

/-- A session whose store can append. -/
def Running (env : Environment) (options : LogStorageOptions) (session : FailingSession) : Prop :=
  ∃ inode metaInode offset, Ready env options session.store session.files inode metaInode offset

/-- `Append` comes to an end: it has appended the record or left everything as it was, and the store
can append again. -/
def Goes (env : Environment) (options : LogStorageOptions) (session : FailingSession)
    (key value : List UInt8) (outcomes : List Outcome) : Prop :=
  ∃ result next, session.append env key value outcomes = some (result, next) ∧
    next.Running env options ∧
    ((∃ index, result = some index ∧ next.Appended env (recordOf env options key value) index) ∨
      result = none ∧ session.Untouched env next key value)

theorem Goes.allOrNothing (goes : session.Goes env options key value outcomes) :
    session.AllOrNothing env options key value outcomes := by
  obtain ⟨result, next, appended, -, ⟨index, rfl, done⟩ | ⟨rfl, same⟩⟩ := goes
  · exact ⟨_, next, appended, done⟩
  · exact ⟨_, next, appended, same⟩

/-- What an `Append` that is all or nothing has done when it has returned true. -/
theorem AllOrNothing.appended (all : session.AllOrNothing env options key value outcomes)
    {index : SegmentIndex} {next : FailingSession}
    (returned : session.append env key value outcomes = some (some index, next)) :
    next.Appended env (recordOf env options key value) index := by
  obtain ⟨result, other, returned', done⟩ := all
  obtain ⟨rfl, rfl⟩ := Prod.mk.inj (Option.some.inj (returned'.symm.trans returned))
  exact done

/-- What an `Append` that is all or nothing has done when it has returned false. -/
theorem AllOrNothing.untouched (all : session.AllOrNothing env options key value outcomes)
    {next : FailingSession}
    (returned : session.append env key value outcomes = some (none, next)) :
    session.Untouched env next key value := by
  obtain ⟨result, other, returned', done⟩ := all
  obtain ⟨rfl, rfl⟩ := Prod.mk.inj (Option.some.inj (returned'.symm.trans returned))
  exact done

/-- A store that is left without a segment is not as before. -/
theorem Untouched.not_stranded {next : FailingSession}
    (ready : Ready env options session.store session.files inode metaInode offset)
    (untouched : session.Untouched env next key value) :
    ¬ session.store.Stranded next.store next.files := by
  rintro (started | ⟨-, closed⟩)
  · rw [untouched.store] at started
    simp at started
  · have open_ := untouched.open_
    rw [closed, ready.opened] at open_
    cases open_

/-- `Append` that changes nothing. -/
theorem Goes.of_same (running : session.Running env options)
    (same : session.append env key value outcomes = some (none, session)) :
    session.Goes env options key value outcomes :=
  ⟨none, session, same, running, .inr ⟨rfl, rfl, rfl, rfl, id⟩⟩

/-- What `Append` does, as its calls come out. -/
theorem append_of_settles {demands : List Demand} {index : Option SegmentIndex}
    {post : Files FileName → Prop}
    {bad : Option SegmentIndex × LogSegmentStore → Files FileName → Prop}
    (settles : Settles (session.store.append env key value) session.files outcomes demands
      (index, store) post bad) :
    (Meets demands outcomes → ∃ files, session.append env key value outcomes =
        some (index, { session with store, files }) ∧ post files) ∧
      (¬ Meets demands outcomes → ∃ result store files, session.append env key value outcomes =
        some (result, { session with store, files }) ∧ bad (result, store) files) := by
  constructor
  · intro met
    obtain ⟨after, overrun, returned, holds⟩ :=
      settles.returns met { files := session.files, outcomes } rfl rfl rfl
    exact ⟨after, by rw [append, returned], holds⟩
  · intro unmet
    obtain ⟨⟨result, store⟩, after, returned, -, holds⟩ :=
      settles.refuses unmet { files := session.files, outcomes } rfl rfl rfl
    exact ⟨result, store, after.files, by rw [append, returned], holds⟩

/-- `Append` of a record that no segment holds. -/
theorem goes_big (running : session.Running env options)
    (big : session.store.segmentMaxSize < 8 + (session.store.indexKeyLength + value.length)) :
    session.Goes env options key value outcomes := by
  refine Goes.of_same running ?_
  rw [append, LogSegmentStore.append, if_pos big]
  rfl

/-- What can be appended where there is room. -/
theorem appends_of_room (ready : Ready env options session.store session.files inode metaInode
    offset) (fits : 8 + (session.store.indexKeyLength + value.length) ≤
      session.store.segmentMaxSize) (room : ¬ session.store.Rolls value) :
    session.Appends env key value := by
  have met : Meets [.runs, .moves (recordOf env options key value).size] [] :=
    ⟨Outcome.noConfusion, trivial, trivial⟩
  obtain ⟨files, appended, -⟩ := (append_of_settles (ready.append_room fits room key [])).1 met
  exact ⟨_, _, appended⟩

/-- `Append` of a record for which there is room, whatever becomes of its calls: it is all or
nothing unless it writes the record whole where it cannot be found. -/
theorem append_in_room (usable : options.Usable)
    (ready : Ready env options session.store session.files inode metaInode offset)
    (fits : 8 + (session.store.indexKeyLength + value.length) ≤ session.store.segmentMaxSize)
    (room : ¬ session.store.Rolls value) :
    let written := Meets [.runs, .moves (recordOf env options key value).size] outcomes
    (session.InPlace ∨ ¬ written → session.Goes env options key value outcomes) ∧
      (session.AllOrNothing env options key value outcomes → session.InPlace ∨ ¬ written) := by
  intro written
  have inside := ready.fits_of_room usable fits room
  have fileSize := ready.fileSize
  have size := ready.size_record key value
  obtain ⟨writes, refuses⟩ := append_of_settles (ready.append_room fits room key outcomes)
  by_cases whole : written
  · obtain ⟨files, returned, moved⟩ := writes whole
    have inPlace : session.InPlace ↔
        session.files.names (.segment session.store.curSegmentId) = some inode := by
      rw [InPlace, ready.opened]
    rw [or_iff_left (not_not.mpr whole), inPlace]
    constructor
    · intro named
      exact ⟨_, _, returned, ⟨_, _, _, ready.wrote _ (by omega) moved⟩,
        .inl ⟨_, rfl, ready.appended usable named key value (by omega) moved _⟩⟩
    · intro all
      by_contra unnamed
      exact ready.lost usable unnamed _ moved _ _ (all.appended returned)
  · obtain ⟨_, _, files, returned, same, written, few, moved⟩ := refuses whole
    obtain ⟨rfl, rfl⟩ := Prod.mk.inj same
    have again : Ready env options session.store files inode metaInode offset :=
      ready.behind (by omega) moved
    have apart : session.files.names .metadata ≠ some inode := fun same =>
      FileName.noConfusion (ready.own _ same)
    refine ⟨fun _ => ⟨none, _, returned, ⟨_, _, _, again⟩, .inr ⟨rfl, rfl, ?_, ?_, fun _ =>
      appends_of_room again fits room⟩⟩, fun _ => .inr whole⟩
    · exact congrFun moved.open_ _
    · rw [moved.disk, Files.withContents_toDisk, Disk.view_withContents_of_ne apart]

/-- `Append` that would start a segment when `ftruncate` fails. -/
theorem goes_refused (running : session.Running env options) (rolls : session.store.Rolls value)
    (fails : outcomes.headD .succeeds = .fails) : session.Goes env options key value outcomes := by
  have stays : Settles (session.store.append env key value) session.files outcomes [.is .fails]
      (none, session.store) (· = session.files) fun _ _ => False := by
    rw [LogSegmentStore.append, if_neg (not_lt.mpr rolls.1)]
    exact (LogSegmentStore.makeRoom_refused rolls.2 fails).pass (Settles.pure rfl)
  obtain ⟨files, appended, rfl⟩ := (append_of_settles stays).1 ⟨fails, trivial⟩
  exact Goes.of_same running appended

/-- `Append` that starts a segment: it is all or nothing exactly when it starts it whole. -/
theorem append_starts (usable : options.Usable)
    (ready : Ready env options session.store session.files inode metaInode offset)
    (rolls : session.store.Rolls value) (cuts : outcomes.headD .succeeds ≠ .fails) :
    let whole := session.StartsWhole env (recordOf env options key value).size outcomes
    (whole → session.Goes env options key value outcomes) ∧
      (session.AllOrNothing env options key value outcomes → whole) := by
  intro whole
  have size := ready.size_record key value
  have fits := rolls.1
  have maxSize := ready.maxSize
  obtain ⟨starts, strands⟩ := append_of_settles (ready.append_rolls usable rolls cuts key)
  by_cases met : Meets (LogSegmentStore.startDemands (outcomes.getD 4 .succeeds)
      (session.files.view (.segment (session.store.curSegmentId + 1))) ++
        [.runs, .moves (recordOf env options key value).size]) outcomes
  · obtain ⟨files, returned, inode', middle, started, named, moved⟩ := starts met
    have stands : whole ↔ NamesSegment env (session.store.curSegmentId + 1)
        (session.store.updatedMetadata env (session.files.contents metaInode)
          (outcomes.getD 4 .succeeds)) := by
      rw [LogSegmentStore.updatedMetadata, namesSegment_iff_stands]
      simp only [whole, StartsWhole]
      rw [ready.view_metadata, Option.getD_some, and_iff_left met]
    rw [stands]
    constructor
    · intro names
      have there := ready.started names started named
      exact ⟨_, _, returned, ⟨_, _, _, there.wrote _ (by omega) moved⟩,
        .inl ⟨_, rfl, there.appended usable named key value (by omega) moved _⟩⟩
    · intro all
      obtain ⟨bytes, seen, names⟩ := (all.appended returned).metadata
      have updated := started.view_metadata ready.metaNamed named
        (writeAt (middle.contents inode') 0 (frame 8 (recordOf env options key value).body))
      rw [← moved.disk, seen] at updated
      rw [← Option.some.inj updated]
      exact names
  · obtain ⟨result, store, files, returned, none, stranded⟩ := strands met
    refine ⟨fun starts => absurd starts.2 met, fun all => ?_⟩
    obtain rfl : result = .none := none
    exact absurd stranded ((all.untouched returned).not_stranded ready)

/-- `Append` is all or nothing exactly when its calls come out as they have to. -/
theorem Running.append (usable : options.Usable) (running : session.Running env options)
    (key value : List UInt8) (outcomes : List Outcome) :
    (session.Safe env (.append key value outcomes) →
        session.Goes env options key value outcomes) ∧
      (session.AllOrNothing env options key value outcomes →
        session.Safe env (.append key value outcomes)) := by
  rcases Nat.lt_or_ge session.store.segmentMaxSize
    (8 + (session.store.indexKeyLength + value.length)) with big | fits
  · exact ⟨fun _ => goes_big running big, fun _ fits => absurd fits (not_le.mpr big)⟩
  obtain ⟨inode, metaInode, offset, ready⟩ := id running
  simp only [Safe, forall_prop_of_true fits]
  rw [← ready.size_record key value]
  by_cases rolls : session.store.Rolls value
  · rw [if_pos rolls]
    by_cases fails : outcomes.headD .succeeds = .fails
    · exact ⟨fun _ => goes_refused running rolls fails, fun _ => .inl fails⟩
    · rw [or_iff_right fails]
      exact append_starts usable ready rolls fails
  · rw [if_neg rolls]
    exact append_in_room usable ready fits rolls

/-- `RemoveAsync`. -/
theorem Running.removeAsync (running : session.Running env options) (index : SegmentIndex)
    {next : FailingSession}
    (stepped : session.step env fuel options (.removeAsync index) = some next) :
    next.Running env options := by
  obtain ⟨inode, metaInode, offset, ready⟩ := running
  rw [step] at stepped
  cases ran : (LogSegmentStore.removeAsync index).run session.files with
  | mk result files =>
    rw [ran] at stepped
    cases result with
    | none => cases stepped
    | some result =>
      obtain rfl := Option.some.inj stepped
      exact ⟨_, _, _, (ready.removeAsync_secures index).ensures.run ran⟩

/-- The event that cleans a segment. -/
theorem Running.clean (running : session.Running env options) {next : FailingSession}
    (stepped : session.step env fuel options (.clean segmentId) = some next) :
    next.Running env options := by
  obtain ⟨inode, metaInode, offset, ready⟩ := running
  rw [step] at stepped
  by_cases pending : segmentId ∈ session.events
  · rw [if_pos pending] at stepped
    cases ran : (LogSegmentStore.deleteSegment segmentId).run session.files with
    | mk result files =>
      rw [ran] at stepped
      cases result with
      | none => cases stepped
      | some result =>
        obtain rfl := Option.some.inj stepped
        have removes : Secures (LogSegmentStore.deleteSegment segmentId) session.files
          (fun _ => True) _ := Secures.remove trivial
        rcases removes.ensures.run ran with rfl | rfl
        · exact ⟨_, _, _, ready⟩
        · exact ⟨_, _, _, ready.without segmentId⟩
  · rw [if_neg pending] at stepped
    obtain rfl := Option.some.inj stepped
    exact ⟨_, _, _, ready⟩

/-- A new object. -/
theorem running_of_open (usable : options.Usable) (sound : files.Sound) (path : files.path ≠ .other)
    (names : NamesSegment env segmentId ((files.view .metadata).getD []))
    (short : ∀ id bytes, files.view (.segment id) = some bytes →
      bytes.length ≤ options.segmentMaxSize) {events : List SegmentId}
    (opened : open_ env fuel options files events = some session) :
    session.Running env options := by
  rw [open_] at opened
  cases ran : (LogSegmentStore.init env fuel {} options).run files with
  | mk result after =>
    rw [ran] at opened
    match result, opened with
    | some (true, store), opened =>
      obtain rfl := Option.some.inj opened
      exact (init_ensures usable fuel sound path names short).run ran rfl

/-- A new object on the disk of another one. -/
theorem Running.reopen (usable : options.Usable) (running : session.Running env options)
    {how : Reopening} {next : FailingSession}
    (stepped : session.step env fuel options (.reopen how) = some next) :
    next.Running env options := by
  obtain ⟨inode, metaInode, offset, ready⟩ := running
  obtain ⟨sound, disk⟩ : (session.closed how).Sound ∧
      (session.closed how).toDisk = session.files.toDisk := Session.closed_disk ready.intact how
  obtain ⟨bytes, seen, names⟩ := ready.metadata
  have metadata : NamesSegment env session.store.curSegmentId
      (((session.closed how).view .metadata).getD []) := by
    rw [disk, seen]
    exact names
  have path : (session.closed how).path ≠ .other := by
    rw [disk]
    exact ready.path
  refine running_of_open usable sound path metadata (fun id bytes found => ?_) stepped
  rw [disk] at found
  exact ready.short id bytes found

/-- One event that leaves no store without its segment. -/
theorem Running.step (usable : options.Usable) (running : session.Running env options)
    {event : FailingEvent} (safe : session.Safe env event) {next : FailingSession}
    (stepped : session.step env fuel options event = some next) : next.Running env options := by
  cases event with
  | append key value outcomes =>
    obtain ⟨result, after, appended, running', -⟩ :=
      (running.append usable key value outcomes).1 safe
    rw [FailingSession.step, appended] at stepped
    obtain rfl := Option.some.inj stepped
    exact running'
  | removeAsync index => exact running.removeAsync index stepped
  | clean segmentId => exact running.clean stepped
  | reopen how => exact running.reopen usable stepped

end FailingSession

/-- A new object on a disk without a store. -/
theorem Fresh.running (usable : options.Usable) (fresh : Fresh disk) {session : FailingSession}
    (opened : FailingSession.open_ env fuel options disk.boot [] = some session) :
    session.Running env options := by
  have unseen : ∀ name, disk.view name = none := fun name =>
    Disk.view_eq_none.mpr (fresh.names name)
  have stored : Stored env options _ _ _ disk := fresh.stored
  have empty : NamesSegment env 0 ((disk.boot.view .metadata).getD []) := by
    rw [Files.boot_toDisk, unseen]
    exact ⟨rfl, fun filled => absurd rfl filled⟩
  refine FailingSession.running_of_open usable stored.sound.boot fresh.path empty
    (fun id bytes seen => ?_) opened
  rw [Files.boot_toDisk, unseen] at seen
  cases seen

/-- `Append` is all or nothing in every step of a run exactly when in every step a segment that is
started is started whole, or not at all, and no record is written whole to a segment in use that has
been cleaned: whatever becomes of its calls otherwise, it appends the record and returns true, or it
leaves the store as it was and returns false. -/
theorem append_all_or_nothing (usable : options.Usable) (fresh : Fresh disk)
    (events : List FailingEvent) :
    AllOrNothingAlong env fuel options disk events ↔
      FailingSafeAlong env fuel options disk events := by
  have agree (state : Option FailingSession) (event : FailingEvent)
      (running : ∀ session ∈ state, session.Running env options) :
      (∀ session ∈ state, ∀ key value outcomes, event = .append key value outcomes →
          session.AllOrNothing env options key value outcomes) ↔
        ∀ session ∈ state, session.Safe env event := by
    refine forall₂_congr fun session here => ?_
    cases event with
    | append key value outcomes =>
      obtain ⟨goes, needs⟩ := (running session here).append usable key value outcomes
      constructor
      · intro all
        exact needs (all key value outcomes rfl)
      · rintro safe _ _ _ ⟨⟩
        exact (goes safe).allOrNothing
    | removeAsync | clean | reopen => exact iff_of_true nofun trivial
  have keeps (state : Option FailingSession) (event : FailingEvent)
      (running : ∀ session ∈ state, session.Running env options)
      (safe : ∀ session ∈ state, session.Safe env event) :
      ∀ next ∈ state.bind (FailingSession.step env fuel options · event),
        next.Running env options := by
    intro next stepped
    obtain ⟨session, here, stepped⟩ := Option.bind_eq_some_iff.mp stepped
    exact (running session here).step usable (safe session here) stepped
  exact Runs.along_congr agree keeps _ _ fun session opened => fresh.running usable opened

/-- A short write of a record, an `ftruncate` and a `close` that fail where a segment is full, a
segment that is cleaned, a checksum of which four bytes are written, and an `access` that fails
where there is an empty file of the next segment. -/
def faults : List FailingEvent :=
  [.append [1] [] [.succeeds, .transfers 3], .append [1] [] [], .append [2] [] [],
    .append [3] [] [.fails], .append [3] [] [.succeeds, .fails],
    .removeAsync (LogSegmentStore.toSegmentIndex 0 9 0), .clean 0, .reopen .restarted,
    .append [4] [] [],
    .append [5] [] [.succeeds, .succeeds, .succeeds, .succeeds, .transfers 4, .fails],
    .removeAsync (LogSegmentStore.toSegmentIndex 3 0 0), .append [6] [] [],
    .append [7] [] (List.replicate 6 .succeeds ++ [.fails])]

theorem append_all_or_nothing_faults :
    AllOrNothingAlong zlib 21 several Disk.empty faults ∧
      (failingRun zlib 21 several Disk.empty faults).map (fun session =>
        (session.store.curSegmentId, session.store.curSegmentOffset)) = some (3, 9) :=
  ⟨(append_all_or_nothing several_usable fresh_empty faults).mpr (by decide +kernel),
    by decide +kernel⟩

/-- The `open` of the next segment fails. -/
def opensNot : List Outcome := List.replicate 7 .succeeds ++ [.fails]

/-- The write of the checksum fails. -/
def sumsNot : List Outcome := List.replicate 4 .succeeds ++ [.fails]

-- The segment that the store takes to be in use is not open, and the same `Append` fails again.
example : (failingRun zlib 10 oneEach Disk.empty [.append [1] [] [], .append [2] [] opensNot]).map
    (fun session => (session.store.curSegmentId, session.files.inodes session.store.curSegmentFd,
      (session.append zlib [2] [] []).map Prod.fst)) = some (1, none, some none) := by
  decide +kernel

theorem opensNot_changes :
    (failingRun zlib 10 oneEach Disk.empty [.append [1] [] []]).map (fun session =>
      (session.append zlib [2] [] opensNot).map fun (index, after) =>
        (index, decide (after.store = session.store))) = some (some (none, false)) := by
  decide +kernel

theorem sumsNot_misnames :
    (failingRun zlib 10 oneEach Disk.empty [.append [1] [] [], .append [2] [] []]).map
      (fun session => (session.append zlib [3] [] sumsNot).map fun (index, after) =>
        (index.isSome, (after.files.view .metadata).map (decodeMetadata zlib))) =
      some (some (true, some none)) := by
  decide +kernel

/-- What a run says of its last `Append`. -/
theorem AllOrNothingAlong.last {events : List FailingEvent} {key value : List UInt8}
    {outcomes : List Outcome} (along : AllOrNothingAlong env fuel options disk
      (events ++ [.append key value outcomes])) {session : FailingSession}
    (ran : failingRun env fuel options disk events = some session) :
    session.AllOrNothing env options key value outcomes := by
  have rest := ((Runs.along_append _ _ _).mp along).2
  exact rest.1 session ran _ _ _ rfl

/-- `Append` that fails where it starts a segment closes the one in use, and `Append` that succeeds
may leave a checksum that does not match. -/
theorem append_not_all_or_nothing :
    ¬ AllOrNothingAlong zlib 10 oneEach Disk.empty [.append [1] [] [], .append [2] [] opensNot] ∧
      ¬ AllOrNothingAlong zlib 10 oneEach Disk.empty
        [.append [1] [] [], .append [2] [] [], .append [3] [] sumsNot] := by
  constructor
  · intro along
    obtain ⟨session, ran, changed⟩ := Option.map_eq_some_iff.mp opensNot_changes
    obtain ⟨⟨index, after⟩, appended, changes⟩ := Option.map_eq_some_iff.mp changed
    obtain ⟨rfl, differs⟩ : index = none ∧ decide (after.store = session.store) = false :=
      Prod.mk.inj changes
    obtain ⟨result, next, appended', done⟩ := AllOrNothingAlong.last along ran
    obtain ⟨rfl, rfl⟩ := Prod.mk.inj (Option.some.inj (appended.symm.trans appended'))
    exact of_decide_eq_false differs done.store
  · intro along
    obtain ⟨session, ran, changed⟩ := Option.map_eq_some_iff.mp sumsNot_misnames
    obtain ⟨⟨index, after⟩, appended, changes⟩ := Option.map_eq_some_iff.mp changed
    obtain ⟨there, misnamed⟩ : index.isSome = true ∧
        (after.files.view .metadata).map (decodeMetadata zlib) = some none := Prod.mk.inj changes
    obtain ⟨index, rfl⟩ := Option.isSome_iff_exists.mp there
    obtain ⟨result, next, appended', done⟩ := AllOrNothingAlong.last along ran
    obtain ⟨rfl, rfl⟩ := Prod.mk.inj (Option.some.inj (appended.symm.trans appended'))
    obtain ⟨bytes, seen, names⟩ := done.metadata
    rw [seen, Option.map_some, names.decodes] at misnamed
    cases misnamed

end Paxosme
