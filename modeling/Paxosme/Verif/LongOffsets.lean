import Paxosme.Verif.LogScan

/-!
# Offsets that an int does not hold

Offsets in a segment are an `off_t`, but `ReplayLog` returns one as an `int`. So it is exact for a
record exactly when that ends below `2 ^ 31`, and `Init`, which goes on from what `ReplayLog`
returns, finds the end of the last record in the same case.
-/

namespace Paxosme

open Posix Bytes Framing

namespace Session

variable (env : Environment) (fuel : Nat) (options : LogStorageOptions)

/-- One event of a log whose calls all succeed. -/
def writes (session : Session) : StoreEvent → Option Session
  | .append entry => match session.append env entry with
    | some (some _, session) => some session
    | _ => none
  | .reopen how => session.step env fuel options (.reopen how)

/-- The log that some events have written on a disk. -/
def written (disk : Disk FileName) (events : List StoreEvent) : Option Session :=
  (open_ env fuel options disk.boot []).bind fun session =>
    events.foldlM (writes env fuel options) session

/-- Where a record ends: behind its eight bytes of length, a key and its value. -/
def endOf (issued : Entry × SegmentIndex) : Int :=
  (LogSegmentStore.parseSegmentIndex issued.2).2.1 + 8 +
    (options.indexKeyLength + issued.1.value.length)

/-- Where the last record ends. -/
def lastEnd (session : Session) : Int :=
  (session.issued.getLast?.map (endOf options)).getD 0

/-- Replaying a log truncates no offset. -/
structure OffsetsExact (session : Session) : Prop where
  /-- `ReplayLog` returns the end of each record. -/
  replays : ∀ issued ∈ session.issued,
    ((session.store.replayLog env (LogSegmentStore.parseSegmentIndex issued.2).1
      (LogSegmentStore.parseSegmentIndex issued.2).2.1).run session.files).1.map Prod.fst =
        some (endOf options issued)
  /-- `Init` finds the end of the last record. -/
  reopens : ∀ how, ∃ session', session.step env fuel options (.reopen how) = some session' ∧
    session'.store.curSegmentOffset = lastEnd options session

/-- Every record ends at an offset that an `int` holds. -/
def EndsInInt (session : Session) : Prop :=
  ∀ issued ∈ session.issued, endOf options issued < 2 ^ 31

/-- A session has written the records of a layout. -/
structure Tallied (session : Session) (layout : Layout) : Prop where
  laid : Laid env options (fun _ => False) layout (restOf options layout) session.store
    session.files
  issued : session.issued.map (fun issued =>
      (recordOf env options issued.1.key issued.1.value, issued.2)) =
    layout.placed.map fun placed => (placed.entry, placed.index env)
  last : lastEnd options session = (segmentBytes layout.current).length

end Session

variable {env : Environment} {fuel : Nat} {options : LogStorageOptions} {layout : Layout}
  {disk : Disk FileName} {session : Session} {entry : Entry} {events : List StoreEvent}

theorem size_recordOf (env : Environment) (options : LogStorageOptions) (key value : List UInt8) :
    (recordOf env options key value).size = 8 + (options.indexKeyLength + value.length) := by
  rw [Entry.size, Entry.body, recordOf, List.length_append, Environment.length_copied]

theorem length_segmentBytes_replicate (count : Nat) (entry : Entry) :
    (segmentBytes (List.replicate count entry)).length = count * entry.size := by
  induction count with
  | zero => rw [Nat.zero_mul]; rfl
  | succ count ih =>
    rw [List.replicate_succ, length_segmentBytes_cons, ih, Nat.succ_mul, Nat.add_comm]

/-- The record that comes next ends its segment. -/
theorem Layout.spot_end (layout : Layout) (room : Nat) (entry : Entry) :
    (layout.spot room entry).offset + entry.size =
      (segmentBytes (layout.place room entry).current).length := by
  rw [spot, place]
  split
  · rw [put, segmentBytes_concat, List.length_append, length_frame_body]
  · rw [put, segmentBytes_concat, List.length_append, length_frame_body]
    rfl

namespace Session

/-- An offset is the same as an `int` exactly when that holds it. -/
theorem bmod_eq_iff (size : Nat) : Int.bmod (size : Int) (2 ^ 32) = size ↔ size < 2 ^ 31 := by
  constructor
  · intro same
    have bound : Int.bmod (size : Int) (2 ^ 32) < (2 ^ 32 + 1) / 2 := Int.bmod_lt (by decide)
    omega
  · intro short
    exact Int.bmod_eq_of_le_mul_two (by omega) (by omega)

namespace Tallied

/-- A record that has been issued has its place, at its offset. -/
theorem placed (sized : options.Sized) (tallied : session.Tallied env options layout)
    {issued : Entry × SegmentIndex} (member : issued ∈ session.issued) :
    ∃ before after number, (layout.closed ++ [layout.current])[number]? =
        some (before ++ recordOf env options issued.1.key issued.1.value :: after) ∧
      (LogSegmentStore.parseSegmentIndex issued.2).1 = segmentId number ∧
        (LogSegmentStore.parseSegmentIndex issued.2).2.1 = (segmentBytes before).length := by
  have inside : (recordOf env options issued.1.key issued.1.value, issued.2) ∈
      session.issued.map fun issued =>
        (recordOf env options issued.1.key issued.1.value, issued.2) :=
    List.mem_map.mpr ⟨issued, member, rfl⟩
  rw [tallied.issued] at inside
  obtain ⟨placed, there, same⟩ := List.mem_map.mp inside
  obtain ⟨entry, index⟩ := Prod.mk.inj same
  obtain ⟨before, after, found, position⟩ := Layout.of_mem_placed there
  rw [entry] at found
  refine ⟨before, after, placed.number, found, ?_, ?_⟩
  · rw [← index, tallied.laid.readable.parse_placed env sized there]
  · rw [← index, tallied.laid.readable.parse_placed env sized there, position]

/-- `ReplayLog` of each record is exact exactly when an `int` holds its end. -/
theorem replays_iff (sized : options.Sized) (tallied : session.Tallied env options layout)
    {issued : Entry × SegmentIndex} (member : issued ∈ session.issued) :
    ((session.store.replayLog env (LogSegmentStore.parseSegmentIndex issued.2).1
        (LogSegmentStore.parseSegmentIndex issued.2).2.1).run session.files).1.map Prod.fst =
          some (endOf options issued) ↔ endOf options issued < 2 ^ 31 := by
  obtain ⟨before, after, number, found, id, offset⟩ := tallied.placed sized member
  have bound := tallied.laid.fits.bounded (List.mem_of_getElem? found)
  have small := sized.small
  rw [segmentBytes_append, List.length_append, length_segmentBytes_cons, size_recordOf] at bound
  have end_ : endOf options issued = (((segmentBytes before).length +
      (recordOf env options issued.1.key issued.1.value).size : Nat) : Int) := by
    rw [endOf, offset, size_recordOf]
    omega
  have replay : Completes (session.store.replayLog env (segmentId number) _) session.files _ _ :=
    tallied.laid.readable.replayLog_placed_int sized found not_false
  obtain ⟨after, run, -⟩ := replay.run
  rw [id, offset, run, end_]
  simp only [Option.map_some, Option.some.injEq]
  rw [bmod_eq_iff]
  omega

/-- Where the last record ends, all records end. -/
theorem lastEnd_lt (tallied : session.Tallied env options layout)
    (ends : session.EndsInInt options) :
    (segmentBytes layout.current).length < 2 ^ 31 := by
  have last := tallied.last
  rw [lastEnd] at last
  cases found : session.issued.getLast? with
  | none =>
    rw [found] at last
    simp at last
    omega
  | some issued =>
    rw [found, Option.map_some, Option.getD_some] at last
    have bound := ends issued (List.mem_of_getLast? found)
    omega

/-- `Init` finds the end of the last record where an `int` holds it. -/
theorem reopens (sized : options.Sized) (tallied : session.Tallied env options layout)
    (enough : options.segmentMaxSize < fuel) (ends : session.EndsInInt options)
    (how : Reopening) :
    ∃ session', session.step env fuel options (.reopen how) = some session' ∧
      session'.Tallied env options layout := by
  obtain ⟨sound, disk⟩ := closed_disk tallied.laid.sound how
  have stored := tallied.laid.stored not_false
  rw [← disk] at stored
  obtain ⟨store, completes⟩ :=
    stored.init_short sized (tallied.lastEnd_lt ends) sound (ends_zeros (by decide) _) enough
  rw [openedTail_restOf] at completes
  obtain ⟨files, run, laid⟩ := completes.run
  exact ⟨⟨store, files, session.issued⟩, by rw [step, open_, run], laid, tallied.issued,
    tallied.last⟩

/-- A log is replayed exactly when an `int` holds where its records end. -/
theorem offsetsExact_iff (sized : options.Sized) (tallied : session.Tallied env options layout)
    (enough : options.segmentMaxSize < fuel) :
    session.OffsetsExact env fuel options ↔ session.EndsInInt options := by
  constructor
  · intro exact_ issued member
    exact (tallied.replays_iff sized member).mp (exact_.replays issued member)
  · intro ends
    refine ⟨fun issued member => (tallied.replays_iff sized member).mpr (ends issued member), ?_⟩
    intro how
    obtain ⟨session', reopened, tallied'⟩ := tallied.reopens sized enough ends how
    exact ⟨session', reopened, tallied'.laid.offset.trans tallied.last.symm⟩

/-- A record that is appended comes behind the others. -/
theorem issues (sized : options.Sized) (tallied : session.Tallied env options layout)
    {entry : Entry}
    {store : LogSegmentStore} {files : Files FileName}
    (small : (recordOf env options entry.key entry.value).size ≤ options.segmentMaxSize)
    (laid : Laid env options (fun _ => False)
      (layout.append options (recordOf env options entry.key entry.value))
      (restOf options (layout.append options (recordOf env options entry.key entry.value))) store
      files) :
    Session.Tallied env options ⟨store, files, session.issued ++ [(entry,
      (layout.spot (restOf options layout).length
        (recordOf env options entry.key entry.value)).index env)]⟩
      (layout.append options (recordOf env options entry.key entry.value)) := by
  generalize recorded : recordOf env options entry.key entry.value = record at small laid ⊢
  have placed := Layout.placed_place layout (restOf options layout).length record
  have ended := Layout.spot_end layout (restOf options layout).length record
  rw [Layout.place_eq_append small] at placed ended
  have member : layout.spot (restOf options layout).length record ∈
      (layout.append options record).placed := by
    rw [placed]
    exact List.mem_append_right _ (List.mem_singleton_self _)
  refine ⟨laid, ?_, ?_⟩
  · rw [placed, List.map_append, List.map_append, tallied.issued, List.map_singleton,
      List.map_singleton, recorded, Layout.spot_entry]
  · have size := size_recordOf env options entry.key entry.value
    rw [recorded] at size
    rw [lastEnd, List.getLast?_concat, Option.map_some, Option.getD_some, endOf,
      laid.readable.parse_placed env sized member, ← ended, size]
    dsimp only
    omega

/-- `Append` of a record that a segment holds, as long as segments can be numbered. -/
theorem stores (sized : options.Sized) (tallied : session.Tallied env options layout)
    {entry : Entry}
    (small : (recordOf env options entry.key entry.value).size ≤ options.segmentMaxSize)
    (more : (restOf options layout).length < (recordOf env options entry.key entry.value).size →
      layout.closed.length + 1 < 2 ^ 32) :
    ∃ index session', session.append env entry = some (some index, session') ∧
      session'.Tallied env options
        (layout.append options (recordOf env options entry.key entry.value)) := by
  have copies : env.copied (entry.key ++ [0]) options.indexKeyLength =
      (recordOf env options entry.key entry.value).key := rfl
  obtain ⟨store', completes⟩ : ∃ store', Completes (LogSegmentStore.append env session.store
      entry.key (recordOf env options entry.key entry.value).value) session.files _ _ :=
    tallied.laid.append_stores sized copies small more not_false
  obtain ⟨files', run, laid⟩ := completes.run
  have run' : (LogSegmentStore.append env session.store entry.key entry.value).run
    session.files = _ := run
  rw [tailOf_restOf small, Layout.place_eq_append small] at laid
  exact ⟨_, _, by rw [Session.append, run']; rfl, tallied.issues sized small laid⟩

/-- `Append` that succeeds keeps what has been written. -/
theorem appends (sized : options.Sized) (tallied : session.Tallied env options layout)
    {entry : Entry}
    {index : SegmentIndex} {session' : Session}
    (appended : session.append env entry = some (some index, session')) :
    ∃ layout', session'.Tallied env options layout' := by
  have copies : env.copied (entry.key ++ [0]) options.indexKeyLength =
      (recordOf env options entry.key entry.value).key := rfl
  have keyed : (recordOf env options entry.key entry.value).key.length = options.indexKeyLength :=
    Environment.length_copied ..
  have number := tallied.laid.archive.number
  rcases Nat.lt_or_ge options.segmentMaxSize (recordOf env options entry.key entry.value).size with
    big | small
  · have refused : LogSegmentStore.append env session.store entry.key
        (recordOf env options entry.key entry.value).value = _ :=
      tallied.laid.append_big keyed big entry.key
    have refused' : LogSegmentStore.append env session.store entry.key entry.value = _ := refused
    rw [Session.append, refused'] at appended
    simp [Sys.run] at appended
  · by_cases wraps : (restOf options layout).length <
        (recordOf env options entry.key entry.value).size ∧ layout.closed.length + 1 = 2 ^ 32
    · have refused : Completes (LogSegmentStore.append env session.store entry.key
          (recordOf env options entry.key entry.value).value) session.files _ _ :=
        tallied.laid.append_wraps sized copies wraps.1 small wraps.2 not_false
      obtain ⟨after, run, -⟩ := refused.run
      have run' : (LogSegmentStore.append env session.store entry.key entry.value).run
        session.files = _ := run
      rw [Session.append, run'] at appended
      simp at appended
    · have more : (restOf options layout).length <
          (recordOf env options entry.key entry.value).size → layout.closed.length + 1 < 2 ^ 32 :=
        fun full => by omega
      obtain ⟨index', session'', stored, tallied'⟩ := tallied.stores sized small more
      obtain ⟨-, rfl⟩ := Prod.mk.inj (Option.some.inj (stored.symm.trans appended))
      exact ⟨_, tallied'⟩

end Tallied

/-! ## A store without room for a byte -/

/-- A session on segments of no bytes, to which the padding gives one. -/
structure Unfillable (env : Environment) (session : Session) : Prop where
  sound : session.files.Sound
  path : session.files.path ≠ .other
  metadata : decodeMetadata env ((session.files.view .metadata).getD []) = some 0
  padding : session.files.view (.segment 0) = some [0]
  size : session.store.segmentMaxSize = 0
  issued : session.issued = []

/-- `PaddingIfNewSegment` of a segment of no bytes: the `lseek` before its start fails and is taken
to have come to the last byte. -/
theorem paddingIfNewSegment_sizeless {store : LogSegmentStore} {files : Files FileName}
    {inode : Nat} (opened : files.inodes store.curSegmentFd = some inode)
    (empty : files.contents inode = []) (none : store.segmentMaxSize = 0) :
    Completes (LogSegmentStore.paddingIfNewSegment store) files
      (1, { store with curSegmentFileSize := 0 }) (files.withContents inode [0]).Moved := by
  obtain ⟨position, here⟩ := Files.descriptor_of_inode opened
  have last : sizeT (((0 : Nat) : Int) - 1) = 2 ^ 64 - 1 := by decide
  have before : offT (2 ^ 64 - 1) = -1 := by decide
  have fails : sizeT (-1) = 2 ^ 64 - 1 := by decide
  have one : Bytes.writeAt [] 0 [0] = [0] := rfl
  refine (Performs.lseek_finish here).andThen ?_
  rw [empty, if_neg (by simp), if_neg (by simp), none, last]
  dsimp only
  rw [before]
  refine (Performs.lseek_before Files.descriptor_self (by decide)).andThen ?_
  rw [fails, if_neg (by simp)]
  refine (Performs.write Files.descriptor_self _).andThen ?_
  rw [if_neg (by simp)]
  simp only [Files.withDescriptor_toDisk, empty, List.length_nil, one]
  refine (Performs.lseek Files.descriptor_self 0).andThen ?_
  rw [if_neg (by simp)]
  refine Completes.pure _ ⟨rfl, ?_, rfl⟩
  simp [Files.update_inodes opened]

/-- The end of `Init` on such a segment that has no file. -/
theorem openCurrent_sizeless {store : LogSegmentStore} {files : Files FileName}
    (sound : files.Sound) (missing : files.view (.segment store.curSegmentId) = none)
    (none : options.segmentMaxSize = 0) :
    Completes (LogSegmentStore.openCurrent env fuel store options) files
      (true, { store with
        curSegmentFd := files.nextDescriptor
        curSegmentOffset := 0
        curSegmentFileSize := 0
        segmentMaxSize := options.segmentMaxSize
        cleaning := options.removeAsync })
      fun after => after.Sound ∧ after.path = files.path ∧
        after.view = Function.update files.view (.segment store.curSegmentId) (some [0]) := by
  rw [LogSegmentStore.openCurrent, LogSegmentStore.openSegment]
  refine (sound.openFile_create (.segment store.curSegmentId)).bind fun middle found => ?_
  obtain ⟨inode, opened⟩ := found
  have nothing : middle.contents inode = [] := by
    rw [opened.contents, missing]
    rfl
  have here : middle.inodes files.nextDescriptor = some inode := by
    rw [opened.open_, Function.update_self]
  rw [if_neg (natCast_ne_failed _)]
  have pad : Completes (LogSegmentStore.paddingIfNewSegment { store with
      curSegmentFd := files.nextDescriptor, segmentMaxSize := options.segmentMaxSize })
      middle _ _ := paddingIfNewSegment_sizeless here nothing none
  refine pad.bind fun padded moved => ?_
  have opened' : padded.inodes files.nextDescriptor = some inode := by
    rw [moved.open_]
    exact here
  obtain ⟨position, at_⟩ := Files.descriptor_of_inode opened'
  dsimp only
  rw [if_neg (by omega), if_pos rfl]
  refine (Performs.lseek at_ 0).andThen ?_
  rw [if_neg (by simp)]
  refine Completes.pure _ ⟨?_, ?_, ?_⟩
  · exact (moved.trans (Files.moved_of_inode opened' 0)).unchanged.sound
      (opened.sound.withContents _ _)
  · rw [Files.withDescriptor_toDisk, moved.disk]
    exact opened.path
  · rw [Files.withDescriptor_toDisk, moved.disk, Files.withContents_toDisk,
      opened.sound.toSound.view_withContents opened.named, opened.view, Function.update_idem]

/-- `Init` of such a store on a disk without one. -/
theorem unfillable_opened (keys : 0 < options.indexKeyLength) (none : options.segmentMaxSize = 0)
    (fresh : Fresh disk) :
    ∃ session, open_ env fuel options disk.boot [] = some session ∧ session.Unfillable env := by
  have stored : Stored env options (fun _ => False) Layout.empty [] disk.boot.toDisk :=
    fresh.stored
  have metadata : decodeMetadata env ((disk.boot.view .metadata).getD []) = some 0 :=
    stored.archive.metadata
  have missing : disk.boot.view (.segment 0) = Option.none := Disk.view_eq_none.mpr (fresh.names _)
  obtain ⟨store, completes⟩ : ∃ store, Completes (LogSegmentStore.init env fuel {} options)
      disk.boot (true, store) fun after => Session.Unfillable env ⟨store, after, []⟩ := by
    refine init_decodes keys stored.sound.boot stored.path fun store after inode _ opened => ?_
    rw [metadata]
    have missing' : after.view (.segment 0) = Option.none := by
      rw [opened.view, Function.update_of_ne (by simp), missing]
    refine ⟨_, (openCurrent_sizeless opened.sound missing' none).imp fun final left => ?_⟩
    obtain ⟨sound, path, view⟩ := left
    refine ⟨sound, ?_, ?_, ?_, none, rfl⟩
    · rw [path, opened.path]
      decide
    · rw [view, Function.update_of_ne (by simp), opened.view, Function.update_self,
        Option.getD_some, metadata]
    · rw [view, Function.update_self]
  obtain ⟨files, run, unfillable⟩ := completes.run
  exact ⟨⟨store, files, []⟩, by rw [open_, run], unfillable⟩

namespace Unfillable

/-- Such a store is opened again. -/
theorem reopens (keys : 0 < options.indexKeyLength) (none : options.segmentMaxSize = 0)
    (positive : 0 < fuel) (unfillable : session.Unfillable env) (how : Reopening) :
    ∃ session', session.step env fuel options (.reopen how) = some session' ∧
      session'.Unfillable env ∧ session'.store.curSegmentOffset = 0 := by
  obtain ⟨sound, disk⟩ := closed_disk unfillable.sound how
  have metadata : decodeMetadata env (((session.closed how).view .metadata).getD []) = some 0 := by
    rw [disk]
    exact unfillable.metadata
  obtain ⟨store, completes⟩ : ∃ store, Completes (LogSegmentStore.init env fuel {} options)
      (session.closed how) (true, store) fun after =>
        Session.Unfillable env ⟨store, after, []⟩ ∧ store.curSegmentOffset = 0 := by
    refine init_decodes keys sound (by rw [disk]; exact unfillable.path)
      fun store after inode _ opened => ?_
    rw [metadata]
    have padding : after.view (.segment 0) = some [0] := by
      rw [opened.view, Function.update_of_ne (by simp), disk, unfillable.padding]
    obtain ⟨segment, named, contents⟩ := Disk.name_of_view padding
    have opens : Completes (LogSegmentStore.openCurrent env fuel { store with curSegmentId := 0 }
        options) after _ _ :=
      openCurrent_filled opened.sound named (show after.contents segment = segmentBytes [] ++ [0]
        from contents) (by simp) (by simp) (ends_of_short (by decide)) (by simp) (by simp) positive
    refine ⟨_, opens.imp fun final same => ⟨⟨?_, ?_, ?_, ?_, none, rfl⟩, rfl⟩⟩
    · exact same.sound (opened.sound.openedAs_found named).sound
    · rw [same.disk, Files.opened_toDisk, opened.path]
      decide
    · rw [same.disk, Files.opened_toDisk, opened.view, Function.update_self, Option.getD_some,
        metadata]
    · rw [same.disk, Files.opened_toDisk, padding]
  obtain ⟨files, run, unfillable', offset⟩ := completes.run
  refine ⟨⟨store, files, session.issued⟩, by rw [step, open_, run], ?_, offset⟩
  rw [unfillable.issued]
  exact unfillable'

/-- Nothing is appended to such a store. -/
theorem refuses (unfillable : session.Unfillable env) (entry : Entry) :
    session.append env entry = some (none, session) := by
  have refused : LogSegmentStore.append env session.store entry.key entry.value =
      pure (none, session.store) := by
    rw [LogSegmentStore.append, unfillable.size, if_pos (by omega)]
  rw [Session.append, refused]
  simp [Sys.run]

end Unfillable

/-! ## A whole run -/

/-- What a run of calls that all succeed has written, with room for bytes or without. -/
def Logged (env : Environment) (options : LogStorageOptions) (session : Session) : Prop :=
  (options.segmentMaxSize = 0 ∧ session.Unfillable env) ∨
    (0 < options.segmentMaxSize ∧ ∃ layout, session.Tallied env options layout)

/-- No record that has been issued is forgotten. -/
theorem issued_subset {session' : Session} {event : StoreEvent}
    (wrote : session.writes env fuel options event = some session') :
    session.issued ⊆ session'.issued := by
  cases event with
  | append entry =>
    rw [writes, Session.append] at wrote
    split at wrote
    · rename_i index next appended
      split at appended
      · obtain ⟨-, rfl⟩ := Prod.mk.inj (Option.some.inj appended)
        rw [← Option.some.inj wrote]
        exact List.subset_append_left _ _
      · cases appended
    · cases wrote
  | reopen how =>
    rw [writes, step, open_] at wrote
    split at wrote
    · rw [← Option.some.inj wrote]
      exact List.Subset.refl _
    · cases wrote

theorem issued_subset_foldlM {last : Session}
    (ran : events.foldlM (Session.writes env fuel options) session = some last) :
    session.issued ⊆ last.issued := by
  induction events generalizing session with
  | nil =>
    rw [← Option.some.inj ran]
    exact List.Subset.refl _
  | cons event events ih =>
    obtain ⟨next, wrote, rest⟩ := Option.bind_eq_some_iff.mp ran
    exact List.Subset.trans (issued_subset wrote) (ih rest)

/-- The options give keys a length when a store can be opened. -/
theorem keys_of_opened {files : Files FileName} {issued : List (Entry × SegmentIndex)}
    (opened : open_ env fuel options files issued = some session) : 0 < options.indexKeyLength := by
  by_contra zero
  have none : options.indexKeyLength = 0 := by omega
  rw [open_, LogSegmentStore.init, if_neg (by simp), if_pos none] at opened
  simp [Sys.run] at opened

namespace Logged

/-- The offsets of a log are exact exactly when an `int` holds where its records end. -/
theorem offsetsExact_iff (keys : 0 < options.indexKeyLength)
    (large : options.segmentMaxSize < 2 ^ 63) (enough : options.segmentMaxSize < fuel)
    (logged : session.Logged env options) :
    session.OffsetsExact env fuel options ↔ session.EndsInInt options := by
  have positive : 0 < fuel := by omega
  rcases logged with ⟨none, unfillable⟩ | ⟨positive, layout, wrote⟩
  · refine iff_of_true ⟨?_, fun how => ?_⟩ ?_
    · rw [unfillable.issued]
      simp
    · obtain ⟨session', reopened, -, offset⟩ := unfillable.reopens keys none positive how
      refine ⟨session', reopened, ?_⟩
      rw [offset, lastEnd, unfillable.issued]
      rfl
    · rw [EndsInInt, unfillable.issued]
      simp
  · exact wrote.offsetsExact_iff ⟨keys, positive, large⟩ enough

/-- One event of a log whose records end at offsets that an `int` holds. -/
theorem writes (keys : 0 < options.indexKeyLength) (large : options.segmentMaxSize < 2 ^ 63)
    (enough : options.segmentMaxSize < fuel) (logged : session.Logged env options)
    (ends : session.EndsInInt options) {event : StoreEvent} {session' : Session}
    (wrote : session.writes env fuel options event = some session') :
    session'.Logged env options := by
  have positive : 0 < fuel := by omega
  rcases logged with ⟨none, unfillable⟩ | ⟨positive, layout, held⟩
  · cases event with
    | append entry =>
      rw [Session.writes, unfillable.refuses entry] at wrote
      cases wrote
    | reopen how =>
      obtain ⟨session'', reopened, unfillable', -⟩ := unfillable.reopens keys none positive how
      obtain rfl := Option.some.inj (reopened.symm.trans wrote)
      exact .inl ⟨none, unfillable'⟩
  · have sized : options.Sized := ⟨keys, positive, large⟩
    cases event with
    | append entry =>
      rw [Session.writes] at wrote
      split at wrote
      · rename_i index next appended
        obtain rfl := Option.some.inj wrote
        obtain ⟨layout', held'⟩ := held.appends sized appended
        exact .inr ⟨positive, layout', held'⟩
      · cases wrote
    | reopen how =>
      obtain ⟨session'', reopened, held'⟩ := held.reopens sized enough ends how
      obtain rfl := Option.some.inj (reopened.symm.trans wrote)
      exact .inr ⟨positive, layout, held'⟩

/-- Along a run, offsets are exact in all its states exactly when the records of the last one
end at offsets that an `int` holds. -/
theorem foldlM_iff (keys : 0 < options.indexKeyLength) (large : options.segmentMaxSize < 2 ^ 63)
    (enough : options.segmentMaxSize < fuel) (logged : session.Logged env options)
    {last : Session} (ran : events.foldlM (Session.writes env fuel options) session = some last) :
    (∀ earlier later middle, events = earlier ++ later →
        earlier.foldlM (Session.writes env fuel options) session = some middle →
          middle.OffsetsExact env fuel options) ↔ last.EndsInInt options := by
  induction events generalizing session with
  | nil =>
    obtain rfl : session = last := Option.some.inj ran
    rw [← logged.offsetsExact_iff keys large enough]
    constructor
    · intro always
      exact always [] [] session rfl rfl
    · intro exact_ earlier later middle split reached
      obtain ⟨rfl, -⟩ := List.append_eq_nil_iff.mp split.symm
      rwa [← Option.some.inj reached]
  | cons event events ih =>
    obtain ⟨next, wrote, rest⟩ := Option.bind_eq_some_iff.mp ran
    have here := logged.offsetsExact_iff keys large enough
    constructor
    · intro always
      have ends := here.mp (always [] (event :: events) session rfl rfl)
      refine (ih (logged.writes keys large enough ends wrote) rest).mp ?_
      intro earlier later middle split reached
      refine always (event :: earlier) later middle (by rw [split]; rfl) ?_
      rw [List.foldlM_cons, wrote]
      exact reached
    · intro ends
      have early : session.EndsInInt options := fun issued member =>
        ends issued (issued_subset_foldlM ran member)
      have later_ := (ih (logged.writes keys large enough early wrote) rest).mpr ends
      intro earlier later middle split reached
      cases earlier with
      | nil =>
        rw [← Option.some.inj reached]
        exact here.mpr early
      | cons first earlier =>
        obtain ⟨rfl, split'⟩ := List.cons.inj split
        rw [List.foldlM_cons, wrote] at reached
        exact later_ earlier later middle split' reached

end Logged

/-- A store on a disk that held none has written nothing. -/
theorem logged_of_opened (large : options.segmentMaxSize < 2 ^ 63) (fresh : Fresh disk)
    (opened : open_ env fuel options disk.boot [] = some session) : session.Logged env options := by
  have keys := keys_of_opened opened
  rcases Nat.eq_zero_or_pos options.segmentMaxSize with none | positive
  · obtain ⟨first, opened', unfillable⟩ : ∃ first, open_ env fuel options disk.boot [] =
        some first ∧ first.Unfillable env := unfillable_opened keys none fresh
    obtain rfl := Option.some.inj (opened'.symm.trans opened)
    exact .inl ⟨none, unfillable⟩
  · obtain ⟨first, opened', holds⟩ : ∃ first, open_ env fuel options disk.boot [] = some first ∧
        first.Holds env options Layout.empty (restOf options Layout.empty) :=
      fresh.opened ⟨keys, positive, large⟩
    obtain rfl := Option.some.inj (opened'.symm.trans opened)
    have empty : first.issued = [] := holds.issued
    refine .inr ⟨positive, Layout.empty, holds.laid, ?_, ?_⟩
    · rw [empty]
      rfl
    · rw [lastEnd, empty]
      rfl

/-- Records of one length that a segment holds, one behind the other. -/
theorem written_replicate (sized : options.Sized) (fresh : Fresh disk) (count : Nat)
    (fits : count * (recordOf env options entry.key entry.value).size ≤ options.segmentMaxSize) :
    ∃ session, written env fuel options disk (List.replicate count (.append entry)) =
        some session ∧
      session.Tallied env options
        ⟨[], List.replicate count (recordOf env options entry.key entry.value)⟩ := by
  generalize recorded : recordOf env options entry.key entry.value = record at fits ⊢
  induction count with
  | zero =>
    obtain ⟨first, opened, holds⟩ : ∃ first, open_ env fuel options disk.boot [] = some first ∧
        first.Holds env options Layout.empty (restOf options Layout.empty) := fresh.opened sized
    have empty : first.issued = [] := holds.issued
    refine ⟨first, by rw [written, opened]; rfl, holds.laid, ?_, ?_⟩
    · rw [empty]
      rfl
    · rw [lastEnd, empty]
      rfl
  | succ count ih =>
    rw [Nat.succ_mul] at fits
    obtain ⟨session, ran, tallied⟩ := ih (by omega)
    have small : record.size ≤ options.segmentMaxSize := by omega
    have room : record.size ≤
        options.segmentMaxSize - (segmentBytes (List.replicate count record)).length := by
      rw [length_segmentBytes_replicate]
      omega
    have next : Layout.append options ⟨[], List.replicate count record⟩ record =
        ⟨[], List.replicate (count + 1) record⟩ := by
      rw [Layout.append, if_neg (by omega), Layout.place, if_pos room, Layout.put,
        List.replicate_succ']
    have stays : record.size ≤
        (restOf options ⟨[], List.replicate count record⟩).length := by
      rw [restOf, List.length_replicate]
      exact room
    obtain ⟨index, session', appended, tallied'⟩ := tallied.stores sized
      (by rw [recorded]; exact small) (by rw [recorded]; omega)
    rw [recorded, next] at tallied'
    obtain ⟨first, opened, rest⟩ := Option.bind_eq_some_iff.mp ran
    refine ⟨session', ?_, tallied'⟩
    rw [written, opened, Option.bind_some, List.replicate_succ', List.foldlM_append, rest]
    simp [Session.writes, appended]

/-- **Offsets are not truncated exactly when no record ends at an offset that an `int` does not
hold.** -/
theorem offsets_exact_iff (large : options.segmentMaxSize < 2 ^ 63)
    (enough : options.segmentMaxSize < fuel) (fresh : Fresh disk)
    (ran : written env fuel options disk events = some session) :
    (∀ earlier later middle, events = earlier ++ later →
        written env fuel options disk earlier = some middle →
          middle.OffsetsExact env fuel options) ↔ session.EndsInInt options := by
  obtain ⟨first, opened, rest⟩ := Option.bind_eq_some_iff.mp ran
  have logged := logged_of_opened large fresh opened
  rw [← logged.foldlM_iff (keys_of_opened opened) large enough rest]
  refine forall₄_congr fun earlier later middle split => ?_
  rw [written, opened]
  rfl

/-- A log of one short record. -/
theorem offsets_exact_short : ∃ session,
    written zlib 10 oneEach Disk.empty [.append ⟨[1], []⟩] = some session ∧
      ((∀ earlier later middle, [StoreEvent.append ⟨[1], []⟩] = earlier ++ later →
          written zlib 10 oneEach Disk.empty earlier = some middle →
            middle.OffsetsExact zlib 10 oneEach) ↔ session.EndsInInt oneEach) := by
  obtain ⟨session, ran, -⟩ : ∃ session, written zlib 10 oneEach Disk.empty
      (List.replicate 1 (.append ⟨[1], []⟩)) = some session ∧ _ :=
    written_replicate oneEach_usable.sized fresh_empty 1 (by decide)
  exact ⟨session, ran, offsets_exact_iff (by decide) (by decide) fresh_empty ran⟩

/-- Segments of four gibibytes. -/
def fourGibibytes : LogStorageOptions := ⟨"db", 2 ^ 32, 1, false⟩

/-- 512 records of four mebibytes: the last ends at `2 ^ 31`, which an `int` does not hold. -/
theorem long_of_size
    (size : (recordOf zlib fourGibibytes entry.key entry.value).size = 2 ^ 22) :
    ∃ session, written zlib (2 ^ 32 + 1) fourGibibytes Disk.empty
        (List.replicate 512 (.append entry)) = some session ∧
      ¬ session.OffsetsExact zlib (2 ^ 32 + 1) fourGibibytes := by
  have sized : fourGibibytes.Sized := ⟨by decide, by decide, by decide⟩
  have fits : 512 * (recordOf zlib fourGibibytes entry.key entry.value).size ≤
      fourGibibytes.segmentMaxSize := by
    rw [size]
    decide
  obtain ⟨session, ran, tallied⟩ : ∃ session, written zlib (2 ^ 32 + 1) fourGibibytes Disk.empty
      (List.replicate 512 (.append entry)) = some session ∧ _ :=
    written_replicate sized fresh_empty 512 fits
  refine ⟨session, ran, fun exact_ => ?_⟩
  have short := tallied.lastEnd_lt ((tallied.offsetsExact_iff sized (by decide)).mp exact_)
  rw [length_segmentBytes_replicate, size] at short
  exact absurd short (by decide)

/-- A record of four mebibytes. -/
def fourMebibytes : Entry := ⟨[0], List.replicate (2 ^ 22 - 9) 0⟩

/-- The last of 512 such records ends at an offset that an `int` does not hold. -/
theorem offsets_exact_not_long : ∃ session,
    written zlib (2 ^ 32 + 1) fourGibibytes Disk.empty
        (List.replicate 512 (.append fourMebibytes)) = some session ∧
      ¬ session.OffsetsExact zlib (2 ^ 32 + 1) fourGibibytes := by
  have key : fourGibibytes.indexKeyLength = 1 := rfl
  have value : fourMebibytes.value.length = 2 ^ 22 - 9 := List.length_replicate
  refine long_of_size ?_
  rw [size_recordOf, key, value]
  norm_num

end Session
end Paxosme
