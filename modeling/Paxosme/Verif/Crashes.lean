import Paxosme.Lib.Runs
import Paxosme.Verif.ReadBack

/-!
# A process that stops within `Append`

The process stops between two calls of `Append` and the next one initialises the store on the
disk as it is. When a segment is started, the disk passes through the old segment cut, the
metadata file with a new number, with its checksum too, and the next segment empty and filled;
`Init` has a way on from each of these unless the metadata file holds the new number behind which
the checksum of the old one still stands.
-/

namespace Paxosme

open Posix Bytes Framing

/-- What happens to a store whose process may stop. -/
inductive CrashEvent where
  | append (entry : Entry)
  /-- The process stops after so many calls of `Append`, and the next one initialises the store. -/
  | crash (entry : Entry) (calls : Nat)
  deriving DecidableEq, Repr

/-- The record of an event. -/
def CrashEvent.entry : CrashEvent → Entry
  | .append entry => entry
  | .crash entry _ => entry

namespace Session

variable (env : Environment) (fuel : Nat) (options : LogStorageOptions)

/-- A process stops after so many calls of `Append`, and the next one initialises the store. -/
def crash (session : Session) (entry : Entry) (calls : Nat) : Option Session :=
  let stopped := session.store.append env entry.key entry.value
    { files := session.files, limit := some calls }
  open_ env fuel options stopped.2.files.toDisk.boot (session.issued ++
    ((stopped.1.bind Prod.fst).map fun index => (entry, index)).toList)

/-- One event. -/
def crashStep (session : Session) : CrashEvent → Option Session
  | .append entry => (session.append env entry).map Prod.snd
  | .crash entry calls => session.crash env fuel options entry calls

/-- `Append` of a record starts a segment. -/
def Rolls (session : Session) (entry : Entry) : Prop :=
  entry.size ≤ session.store.segmentMaxSize ∧
    session.store.curSegmentFileSize < sizeT (session.store.curSegmentOffset + entry.size)

/-- The metadata file holds a checksum, which is not that of the next segment. -/
def OldChecksum (session : Session) : Prop :=
  let bytes := (session.files.view .metadata).getD []
  12 ≤ bytes.length ∧ (env.crc32 (idBytes (session.store.curSegmentId + 1))).toNat ≠
    ofLittleEndian ((bytes.drop 4).take 4)

/-- The process stops when the metadata file holds the number of the next segment and a checksum
that is not the one of that number. -/
def Torn (session : Session) (entry : Entry) (calls : Nat) : Prop :=
  calls = 4 ∧ session.Rolls entry ∧ session.OldChecksum env

/-- The segment that `Append` of a record starts has no file yet. -/
def Numbered (session : Session) (entry : Entry) : Prop :=
  session.Rolls entry → session.files.names (.segment (session.store.curSegmentId + 1)) = none

/-- An event that a store survives. -/
def Safe (session : Session) : CrashEvent → Prop
  | .append entry => session.Numbered entry
  | .crash entry calls => session.Numbered entry ∧ ¬ session.Torn env entry calls

instance (session : Session) (entry : Entry) : Decidable (session.Rolls entry) :=
  inferInstanceAs (Decidable (_ ∧ _))

instance (session : Session) : Decidable (session.OldChecksum env) :=
  inferInstanceAs (Decidable (_ ∧ _))

instance (session : Session) (entry : Entry) (calls : Nat) :
    Decidable (session.Torn env entry calls) :=
  inferInstanceAs (Decidable (_ ∧ _ ∧ _))

instance (session : Session) (entry : Entry) : Decidable (session.Numbered entry) :=
  inferInstanceAs (Decidable (_ → _))

instance (session : Session) (event : CrashEvent) : Decidable (session.Safe env event) :=
  match event with
  | .append entry => inferInstanceAs (Decidable (session.Numbered entry))
  | .crash entry calls =>
    inferInstanceAs (Decidable (session.Numbered entry ∧ ¬ session.Torn env entry calls))

end Session

/-- A store on a disk after some events. -/
def crashRun (env : Environment) (fuel : Nat) (options : LogStorageOptions)
    (disk : Disk FileName) (events : List CrashEvent) : Option Session :=
  Runs.run (fun state event => state.bind (Session.crashStep env fuel options · event))
    (Session.open_ env fuel options disk.boot []) events

/-- Every event of a run is one that the store survives. -/
def SafeAlong (env : Environment) (fuel : Nat) (options : LogStorageOptions)
    (disk : Disk FileName) (events : List CrashEvent) : Prop :=
  Runs.Along (fun state event => state.bind (Session.crashStep env fuel options · event))
    (fun state event => ∀ session ∈ state, session.Safe env event)
    (Session.open_ env fuel options disk.boot []) events

instance (disk : Disk FileName) (events : List CrashEvent) :
    Decidable (SafeAlong env fuel options disk events) :=
  inferInstanceAs (Decidable (Runs.Along _ _ _ _))

variable {env : Environment} {fuel : Nat} {options : LogStorageOptions} {layout : Layout}
  {tail : List UInt8} {disk : Disk FileName} {session : Session} {entry : Entry}
  {events : List CrashEvent} {store : LogSegmentStore} {files : Files FileName}

namespace Session.Holds

theorem rolls_iff (usable : options.Usable) (holds : session.Holds env options layout tail) :
    session.Rolls entry ↔ entry.size ≤ options.segmentMaxSize ∧ tail.length < entry.size := by
  rw [Session.Rolls, holds.laid.maxSize]
  exact and_congr_right fun small => holds.laid.full_iff usable.sized small

end Session.Holds

namespace Laid

/-- The disk once the segment in use is cut behind its records. -/
theorem stored_cut (laid : Laid env options (fun _ => False) layout tail store files)
    (sound : disk.Sound) (path : disk.path = files.path)
    (view : disk.view = Function.update files.view layout.currentName
      (some (segmentBytes layout.current))) :
    Stored env options (fun _ => False) layout [] disk where
  sound := sound
  path := by rw [path]; exact laid.path
  archive := by
    rw [view]
    refine laid.archive.congr ?_ fun id apart =>
      Function.update_of_ne (segment_ne_current apart) ..
    rw [Function.update_of_ne (metadata_ne_current layout)]
    exact laid.archive.metadata
  fits := laid.fits.fewer (Nat.zero_le _)
  inUse := not_false
  current := by rw [view, Function.update_self, List.append_nil]; rfl

theorem next_ne_current (more : layout.closed.length + 1 < 2 ^ 32) :
    layout.nextName ≠ layout.currentName := by
  intro same
  have number := segmentId_inj more (by omega) (FileName.segment.inj same)
  omega

/-- The disk once the metadata file names the next segment, which may have no file yet. -/
theorem stored_next (laid : Laid env options (fun _ => False) layout tail store files)
    (more : layout.closed.length + 1 < 2 ^ 32) {metadata tail' : List UInt8}
    {next : Option (List UInt8)} (short : tail'.length ≤ options.segmentMaxSize)
    (decoded : decodeMetadata env metadata = some (segmentId (layout.closed.length + 1)))
    (sound : disk.Sound) (path : disk.path = files.path)
    (view : disk.view = Function.update (Function.update (Function.update files.view
      layout.currentName (some (segmentBytes layout.current))) .metadata (some metadata))
      layout.nextName next) (filled : next.getD [] = tail') :
    Stored env options (fun _ => False) layout.roll tail' disk := by
  have apart := next_ne_current more
  have archive : Archive env (fun _ => False) (layout.closed ++ [layout.current]) disk.view := by
    refine laid.archive.roll more ?_ (fun _ => ?_) (fun absent => absent.elim) fun id old new => ?_
    · rw [view, Function.update_of_ne (by simp [Layout.nextName]), Function.update_self,
        Option.getD_some, decoded]
    · change disk.view layout.currentName = _
      rw [view, Function.update_of_ne apart.symm,
        Function.update_of_ne (metadata_ne_current layout).symm, Function.update_self]
    · have other : FileName.segment id ≠ layout.nextName :=
        fun same => new (FileName.segment.inj same)
      rw [view, Function.update_of_ne other, Function.update_of_ne (by simp),
        Function.update_of_ne (segment_ne_current old)]
  refine ⟨sound, by rw [path]; exact laid.path, archive, ?_, not_false, ?_⟩
  · exact laid.fits.roll.fewer (by rw [List.length_replicate]; exact short)
  · rw [Layout.roll_currentName, view, Function.update_self, filled]
    rfl

/-- What is left on the disk when a process stops while it starts a segment. -/
theorem stored_of_rollDisks (laid : Laid env options (fun _ => False) layout tail store files)
    (more : layout.closed.length + 1 < 2 ^ 32) (zeros : ∃ count, tail = List.replicate count 0)
    {inode metaInode : Nat}
    (open_ : OpenFiles (fun _ => False) layout tail store files inode metaInode) {calls : Nat}
    (found : (rollDisks env options layout files.toDisk inode metaInode)[calls]? = some disk)
    (whole : calls = 4 → decodeMetadata env (metadataOf ((files.view .metadata).getD [])
      (segmentId (layout.closed.length + 1)) []) = some (segmentId (layout.closed.length + 1))) :
    ∃ layout' count, layout'.placed = layout.placed ∧
      Stored env options (fun _ => False) layout' (List.replicate count 0) disk := by
  have disks := laid.sound.toSound
  obtain ⟨sound, path⟩ := sound_of_mem_rollDisks disks disk (List.mem_of_getElem? found)
  have cut : (cutDisk layout files.toDisk inode).view = Function.update files.view
      layout.currentName (some (segmentBytes layout.current)) := by
    rw [cutDisk_view disks open_.linked open_.unnamed,
      Disk.view_of_name (open_.linked not_false), Option.map_some]
  have named : ∀ checksum, (namedDisk layout files.toDisk inode metaInode checksum).view = _ :=
    namedDisk_view disks open_.metaNamed
  rw [cut] at named
  -- as long as the next segment has no file
  have unseen : ∀ checksum, (namedDisk layout files.toDisk inode metaInode checksum).view =
      Function.update (Function.update (Function.update files.view layout.currentName
        (some (segmentBytes layout.current))) .metadata (some (metadataOf
          ((files.view .metadata).getD []) (segmentId (layout.closed.length + 1)) checksum)))
        layout.nextName none := by
    intro checksum
    refine (named checksum).trans (Function.update_eq_self_iff.mpr ?_).symm
    rw [Function.update_of_ne (by simp [Layout.nextName]),
      Function.update_of_ne (next_ne_current more)]
    exact (laid.archive.next_free more).symm
  have created : (createdDisk env layout files.toDisk inode metaInode).view = _ :=
    createdDisk_view disks
  have started : (startedDisk env options layout files.toDisk inode metaInode).view = _ :=
    startedDisk_view disks
  rw [updatedDisk, named] at created started
  have updated : decodeMetadata env (metadataOf ((files.view .metadata).getD [])
      (segmentId (layout.closed.length + 1)) _) = some (segmentId (layout.closed.length + 1)) :=
    decodeMetadata_updated _ _
  obtain ⟨count, rfl⟩ := zeros
  rcases rollDisks_cases found with rfl | rfl | ⟨four, rfl⟩ | rfl | rfl | rfl
  · exact ⟨layout, count, rfl, laid.stored not_false⟩
  · exact ⟨layout, 0, rfl, laid.stored_cut sound path cut⟩
  · exact ⟨layout.roll, 0, layout.placed_roll, laid.stored_next more (Nat.zero_le _)
      (whole four) sound path (unseen []) rfl⟩
  · exact ⟨layout.roll, 0, layout.placed_roll, laid.stored_next more (Nat.zero_le _) updated
      sound path (unseen _) rfl⟩
  · exact ⟨layout.roll, 0, layout.placed_roll, laid.stored_next more (Nat.zero_le _) updated
      sound path created rfl⟩
  · exact ⟨layout.roll, options.segmentMaxSize, layout.placed_roll, laid.stored_next more
      (by rw [List.length_replicate]) updated sound path started rfl⟩

end Laid

/-- The metadata file names the next segment, unless a checksum is left that is not right. -/
theorem decodeMetadata_named (old : List UInt8) (segmentId : SegmentId) :
    decodeMetadata env (metadataOf old segmentId []) =
      if 12 ≤ old.length ∧ (env.crc32 (idBytes segmentId)).toNat ≠
        ofLittleEndian ((old.drop 4).take 4) then none else some segmentId := by
  have long : 12 ≤ (metadataOf old segmentId []).length ↔ 12 ≤ old.length := by
    rw [metadataOf, List.length_append, length_idBytes, List.nil_append, List.length_nil,
      List.length_drop]
    omega
  simp only [decodeMetadata_metadataOf, long, List.nil_append, List.length_nil, Nat.add_zero]

/-- The store holds its records, and behind them zeros. -/
def Session.Whole (env : Environment) (options : LogStorageOptions) (session : Session) : Prop :=
  ∃ layout count, session.Holds env options layout (List.replicate count 0)

theorem tailOf_zeros (options : LogStorageOptions) (count : Nat) (entry : Entry) :
    ∃ count', tailOf options (List.replicate count 0) entry = List.replicate count' 0 := by
  rw [tailOf]
  split
  · exact ⟨_, List.drop_replicate⟩
  · exact ⟨_, List.drop_replicate⟩

theorem openedTail_zeros (options : LogStorageOptions) (layout : Layout) (count : Nat) :
    ∃ count', openedTail options layout (List.replicate count 0) = List.replicate count' 0 := by
  rw [openedTail]
  split
  · exact ⟨_, rfl⟩
  · exact ⟨_, rfl⟩

namespace Session.Holds

/-- There is a number for the segment that `Append` of a record starts. -/
theorem more (usable : options.Usable) (holds : session.Holds env options layout tail)
    (numbered : session.Numbered entry) (small : entry.size ≤ options.segmentMaxSize)
    (full : tail.length < entry.size) : layout.closed.length + 1 < 2 ^ 32 :=
  holds.laid.more_of_missing not_false (numbered ((holds.rolls_iff usable).mpr ⟨small, full⟩))

/-- The next process finds the records on the disk. -/
theorem recovers (usable : options.Usable) (enough : options.segmentMaxSize < fuel)
    {count : Nat} (stored : Stored env options (fun _ => False) layout (List.replicate count 0) disk)
    {issued : List (Entry × SegmentIndex)}
    (same : issued = layout.placed.map fun placed => (placed.entry, placed.index env)) :
    ∃ session, Session.open_ env fuel options disk.boot issued = some session ∧
      session.issued = issued ∧ session.Whole env options := by
  obtain ⟨session, opened, kept, holds⟩ :=
    Session.Holds.opened usable enough stored.sound.boot stored (ends_zeros (by decide) _) same
  obtain ⟨count', zeros⟩ := openedTail_zeros options layout count
  rw [zeros] at holds
  exact ⟨session, opened, kept, layout, count', holds⟩

/-- `Append` keeps zeros behind the records. -/
theorem append_whole (usable : options.Usable) {count : Nat}
    (holds : session.Holds env options layout (List.replicate count 0))
    (keyed : entry.key.length = options.indexKeyLength)
    (small : entry.size ≤ options.segmentMaxSize) (numbered : session.Numbered entry) :
    ∃ index session', session.append env entry = some (some index, session') ∧
      session'.Whole env options := by
  obtain ⟨session', appended, holds'⟩ :=
    holds.append_small usable.sized keyed small (holds.more usable numbered small)
  obtain ⟨count', zeros⟩ := tailOf_zeros options count entry
  rw [zeros] at holds'
  exact ⟨_, session', appended, _, count', holds'⟩

/-- A process that stops before it writes the record leaves a disk that holds the records. -/
theorem crash_early (usable : options.Usable) (enough : options.segmentMaxSize < fuel)
    {count calls : Nat} (same : layout.placed.map (fun placed => (placed.entry, placed.index env)) =
      session.issued)
    (stored : Stored env options (fun _ => False) layout (List.replicate count 0) disk)
    (none : (session.store.append env entry.key entry.value
      { files := session.files, limit := some calls }).1.bind Prod.fst = none)
    (left : (session.store.append env entry.key entry.value
      { files := session.files, limit := some calls }).2.files.toDisk = disk) :
    ∃ session', session.crash env fuel options entry calls = some session' ∧
      session'.Whole env options := by
  obtain ⟨session', opened, -, whole⟩ := recovers usable enough stored same.symm
  refine ⟨session', ?_, whole⟩
  rw [Session.crash]
  simp only [none, left, Option.map_none, Option.toList_none, List.append_nil]
  exact opened

/-- A process that stops behind `Append` leaves a disk that holds its record too. -/
theorem crash_late (usable : options.Usable) (enough : options.segmentMaxSize < fuel)
    {layout' : Layout} {count calls : Nat} {placed : Placed} {store : LogSegmentStore}
    (holds : session.Holds env options layout tail)
    (more : layout'.placed = layout.placed ++ [placed]) (entry_ : placed.entry = entry)
    (returned : (session.store.append env entry.key entry.value
      { files := session.files, limit := some calls }).1 = some (some (placed.index env), store))
    (laid : Laid env options (fun _ => False) layout' (List.replicate count 0) store
      (session.store.append env entry.key entry.value
        { files := session.files, limit := some calls }).2.files) :
    ∃ session', session.crash env fuel options entry calls = some session' ∧
      session'.Whole env options := by
  have issued : session.issued ++ [(entry, placed.index env)] =
      layout'.placed.map fun placed => (placed.entry, placed.index env) := by
    rw [more, List.map_append, holds.issued, ← entry_]
    rfl
  obtain ⟨session', opened, -, whole⟩ := recovers usable enough (laid.stored not_false) issued
  refine ⟨session', ?_, whole⟩
  rw [Session.crash]
  simp only [returned, Option.bind_some, Option.map_some, Option.toList_some]
  exact opened

/-- A process that stops within `Append` leaves a disk that `Init` has a way on from. -/
theorem crash_recovers (usable : options.Usable) (enough : options.segmentMaxSize < fuel)
    {count calls : Nat} (holds : session.Holds env options layout (List.replicate count 0))
    (keyed : entry.key.length = options.indexKeyLength) (numbered : session.Numbered entry)
    (whole : ¬ session.Torn env entry calls) :
    ∃ session', session.crash env fuel options entry calls = some session' ∧
      session'.Whole env options := by
  rcases Nat.lt_or_ge options.segmentMaxSize entry.size with big | small
  · refine crash_early usable enough holds.issued.symm (holds.laid.stored not_false) ?_ ?_
    · rw [holds.laid.append_big keyed big]
      rfl
    · rw [holds.laid.append_big keyed big]
      rfl
  have placed := layout.placed_place (List.replicate count (0 : UInt8)).length entry
  rw [Layout.place] at placed
  rcases Nat.lt_or_ge (List.replicate count (0 : UInt8)).length entry.size with full | room
  · rw [if_neg (by omega)] at placed
    have more := holds.more usable numbered small full
    obtain ⟨inode, metaInode, open_⟩ := holds.laid.openFiles
    obtain ⟨store, achieves⟩ :=
      holds.laid.append_rolls usable.sized (env.copied_key keyed) full small more not_false open_
    rcases achieves.limited calls with ⟨disk, found, none, left⟩ | ⟨-, returned, laid⟩
    · obtain ⟨calls', found', four⟩ : ∃ calls', (rollDisks env options layout session.files.toDisk
          inode metaInode)[calls']? = some disk ∧ (calls' = 4 → calls = 4) := by
        rcases Nat.lt_or_ge calls 12 with early | late
        · exact ⟨calls, by rwa [List.getElem?_append_left early] at found, fun four => four⟩
        · rw [List.getElem?_append_right late] at found
          have last := List.mem_of_getElem? found
          refine ⟨11, ?_, by omega⟩
          rw [show disk = _ by simpa using last]
          rfl
      obtain ⟨layout', count', same, stored⟩ := holds.laid.stored_of_rollDisks more ⟨count, rfl⟩
        open_ found' fun at_ => by
          rw [decodeMetadata_named, if_neg]
          intro mismatch
          refine whole ⟨four at_, (holds.rolls_iff usable).mpr ⟨small, full⟩, ?_⟩
          rw [OldChecksum, holds.laid.id, ← segmentId_succ]
          exact mismatch
      exact crash_early usable enough (by rw [same, holds.issued]) stored
        (by rw [none, Option.bind_none]) left
    · rw [List.drop_replicate] at laid
      exact crash_late usable enough holds placed (Layout.spot_entry ..) returned laid
  · rw [if_pos room] at placed
    obtain ⟨store, achieves⟩ := holds.laid.append_put usable.sized (env.copied_key keyed) room
    rcases achieves.limited calls with ⟨disk, found, none, left⟩ | ⟨-, returned, laid⟩
    · have same : disk = session.files.toDisk := by
        simpa using List.mem_of_getElem? found
      exact crash_early usable enough holds.issued.symm (same ▸ holds.laid.stored not_false)
        (by rw [none, Option.bind_none]) left
    · rw [List.drop_replicate] at laid
      exact crash_late usable enough holds placed (Layout.spot_entry ..) returned laid

/-- `Init` fails after a process that stopped between the number and the checksum of a segment,
when the checksum of the segment before was there. -/
theorem crash_torn (usable : options.Usable) {calls : Nat}
    (holds : session.Holds env options layout tail)
    (keyed : entry.key.length = options.indexKeyLength) (numbered : session.Numbered entry)
    (torn : session.Torn env entry calls) :
    session.crash env fuel options entry calls = none := by
  obtain ⟨rfl, rolls, mismatch⟩ := torn
  obtain ⟨small, full⟩ := (holds.rolls_iff usable).mp rolls
  obtain ⟨inode, metaInode, open_⟩ := holds.laid.openFiles
  obtain ⟨store, achieves⟩ := holds.laid.append_rolls usable.sized (env.copied_key keyed) full small
    (holds.more usable numbered small full) not_false open_
  rcases achieves.limited 4 with ⟨disk, found, none, left⟩ | ⟨outside, -⟩
  · obtain rfl : namedDisk layout session.files.toDisk inode metaInode [] = disk :=
      Option.some.inj found
    have view : (namedDisk layout session.files.toDisk inode metaInode []).view = _ :=
      namedDisk_view holds.laid.sound.toSound open_.metaNamed []
    have refused : decodeMetadata env
        (((namedDisk layout session.files.toDisk inode metaInode []).boot.view .metadata).getD []) =
          Option.none := by
      rw [Files.boot_toDisk, view, Function.update_self, Option.getD_some, decodeMetadata_named,
        if_pos]
      rw [OldChecksum, holds.laid.id, ← segmentId_succ] at mismatch
      exact mismatch
    have passed : (rollDisks env options layout session.files.toDisk inode metaInode)[4]? =
        some (namedDisk layout session.files.toDisk inode metaInode []) := rfl
    obtain ⟨sound, path⟩ :=
      sound_of_mem_rollDisks holds.laid.sound.toSound _ (List.mem_of_getElem? passed)
    have path' : (namedDisk layout session.files.toDisk inode metaInode []).boot.path ≠ .other := by
      rw [Files.boot_toDisk, path]
      exact holds.laid.path
    obtain ⟨after, completes⟩ := init_refuses usable.keys sound.boot path' refused
    obtain ⟨files, run, -⟩ := completes.run
    rw [Session.crash, left, Session.open_, run]
  · cases outside

end Session.Holds

namespace Session.Whole

/-- One event that the store survives. -/
theorem crashStep (usable : options.Usable) (enough : options.segmentMaxSize < fuel)
    {event : CrashEvent} (whole : session.Whole env options)
    (keyed : event.entry.key.length = options.indexKeyLength) (safe : session.Safe env event) :
    ∃ session', session.crashStep env fuel options event = some session' ∧
      session'.Whole env options := by
  obtain ⟨layout, count, holds⟩ := whole
  cases event with
  | crash entry calls =>
    exact holds.crash_recovers usable enough keyed safe.1 safe.2
  | append entry =>
    have keyed' : entry.key.length = options.indexKeyLength := keyed
    rcases Nat.lt_or_ge options.segmentMaxSize entry.size with big | small
    · refine ⟨session, ?_, layout, count, holds⟩
      rw [Session.crashStep, holds.append_big keyed' big]
      rfl
    · obtain ⟨index, session', appended, whole'⟩ :=
        holds.append_whole usable keyed' small safe
      refine ⟨session', ?_, whole'⟩
      rw [Session.crashStep, appended]
      rfl

/-- Events that the store survives. -/
theorem run (usable : options.Usable) (enough : options.segmentMaxSize < fuel)
    (whole : session.Whole env options)
    (keyed : ∀ event ∈ events, event.entry.key.length = options.indexKeyLength)
    (safe : Runs.Along (fun state event => state.bind (Session.crashStep env fuel options · event))
      (fun state event => ∀ session ∈ state, session.Safe env event) (some session) events) :
    ∃ session', Runs.run (fun state event => state.bind
        (Session.crashStep env fuel options · event)) (some session) events = some session' ∧
      session'.Whole env options := by
  exact safe.goes_on (fun session event member whole safe =>
    whole.crashStep usable enough (keyed event member) safe) whole

end Session.Whole

/-- What a store promises after stops and new starts of its process. -/
structure Session.Survives (env : Environment) (fuel : Nat) (options : LogStorageOptions)
    (session : Session) : Prop where
  /-- What was appended is read by its index. -/
  reads : ∀ entry index, (entry, index) ∈ session.issued → Reads env session entry index
  /-- A record that a segment holds is appended. -/
  appends : ∀ entry : Entry, entry.key.length = options.indexKeyLength →
    entry.size ≤ options.segmentMaxSize → session.Numbered entry →
    ∃ index session', session.append env entry = some (some index, session')
  /-- `Init` succeeds after a stop within `Append`, unless the metadata file is torn. -/
  restarts : ∀ (entry : Entry) (calls : Nat), entry.key.length = options.indexKeyLength →
    session.Numbered entry →
    ((∃ session', session.crash env fuel options entry calls = some session') ↔
      ¬ session.Torn env entry calls)

/-- A store whose process does not stop between the number and the checksum of a later segment
keeps all its records. -/
theorem crashes_keep_store (usable : options.Usable) (fresh : Fresh disk)
    (enough : options.segmentMaxSize < fuel)
    (keyed : ∀ event ∈ events, event.entry.key.length = options.indexKeyLength)
    (safe : SafeAlong env fuel options disk events) :
    ∃ session, crashRun env fuel options disk events = some session ∧
      session.Survives env fuel options := by
  obtain ⟨start, opened, holds⟩ := fresh.opened usable.sized
  have whole : start.Whole env options := ⟨_, _, holds⟩
  rw [SafeAlong, opened] at safe
  have kept : ∃ session, crashRun env fuel options disk events = some session ∧
      session.Whole env options := by
    rw [crashRun, opened]
    exact whole.run usable enough keyed safe
  obtain ⟨session, ran, layout, count, holds⟩ := kept
  refine ⟨session, ran, fun entry index issued => holds.reads usable issued, ?_, ?_⟩
  · intro entry keyed small numbered
    obtain ⟨index, session', appended, -⟩ := holds.append_whole usable keyed small numbered
    exact ⟨index, session', appended⟩
  · intro entry calls keyed numbered
    constructor
    · rintro ⟨session', restarted⟩ torn
      rw [holds.crash_torn usable keyed numbered torn] at restarted
      cases restarted
    · intro whole
      obtain ⟨session', restarted, -⟩ :=
        holds.crash_recovers usable enough keyed numbered whole
      exact ⟨session', restarted⟩

/-- The process stops within `Append` of the record that starts the second segment, first between
the cut and the number and then behind the checksum. -/
theorem crashes_keep_store_second_segment :
    ∃ session, crashRun zlib 10 oneEach Disk.empty
        [.append ⟨[1], []⟩, .crash ⟨[2], []⟩ 3, .crash ⟨[2], []⟩ 5] = some session ∧
      session.Survives zlib 10 oneEach :=
  crashes_keep_store oneEach_usable fresh_empty (by decide) (by decide) (by decide +kernel)

/-- The process stops between the number and the checksum of the third segment, and `Init` fails
although two records have been appended. -/
theorem crash_loses_store :
    (crashRun zlib 10 oneEach Disk.empty [.append ⟨[1], []⟩, .append ⟨[2], []⟩]).map
        (fun session => session.issued.map Prod.fst) = some [⟨[1], []⟩, ⟨[2], []⟩] ∧
      (crashRun zlib 10 oneEach Disk.empty
        [.append ⟨[1], []⟩, .append ⟨[2], []⟩, .crash ⟨[3], []⟩ 4]).isNone := by
  decide +kernel

end Paxosme
