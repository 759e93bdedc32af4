import Paxosme.Lib.Runs
import Paxosme.Verif.Crashes
import Paxosme.Verif.LogScan

/-!
# Writes that transfer a part of a record

The write of a record may transfer only its first bytes. `Append` fails then and writes the next
record over them, so that bytes of a longer record may stand behind a shorter one; a process that
crashes there leaves them behind the last record. The scans take for a record whatever reads as
one.
-/

namespace Paxosme

open Posix Bytes Framing

/-- What happens to a store whose writes of records may be short. -/
inductive WriteEvent where
  /-- `Append`, whose write of the record moves at most so many bytes. -/
  | append (entry : Entry) (moved : Nat)
  | reopen (how : Reopening)
  deriving DecidableEq, Repr

namespace Session

variable (env : Environment) (fuel : Nat) (options : LogStorageOptions)

/-- `Append`, when its calls come out so. -/
def appendWith (session : Session) (entry : Entry) (outcomes : List Outcome) :
    Option (Option SegmentIndex × Session) :=
  match session.store.append env entry.key entry.value { files := session.files, outcomes } with
  | (some (result, store), world) => some (result, ⟨store, world.files,
      session.issued ++ (result.map fun index => (entry, index)).toList⟩)
  | (none, _) => none

/-- What becomes of the calls of `Append` when the last of them, the write of the record, moves at
most so many bytes: thirteen come before it when a segment is started. -/
def shortWrite (session : Session) (entry : Entry) (moved : Nat) : List Outcome :=
  List.replicate (if session.Rolls entry then 13 else 1) .succeeds ++ [.transfers moved]

/-- One event. A process that stops in the write of a record is an `append` and then a `reopen`. -/
def writeStep (session : Session) : WriteEvent → Option Session
  | .append entry moved =>
    (session.appendWith env entry (session.shortWrite entry moved)).map Prod.snd
  | .reopen how => session.step env fuel options (.reopen how)

/-- The bytes of the segment in use behind the last record. -/
def leftOver (session : Session) : List UInt8 :=
  ((session.files.view (.segment session.store.curSegmentId)).getD []).drop
    session.store.curSegmentOffset.toNat

/-- The next segment has no file yet. -/
def NextFree (session : Session) : Prop :=
  session.files.names (.segment (session.store.curSegmentId + 1)) = none

/-- Where the length of a record would stand behind the last one there are too few bytes for it,
or zeros, or a number of more bytes than follow, for which the process has the memory. -/
def NoLength (env : Environment) (session : Session) : Prop :=
  let left := session.leftOver
  left.length < 8 ∨ ofLittleEndian (left.take 8) = 0 ∨
    ((left.drop 8).length < ofLittleEndian (left.take 8) ∧
      ofLittleEndian (left.take 8) ≤ env.memory)

/-- An event that leaves no record that was not appended. -/
def WriteSafe (env : Environment) (session : Session) : WriteEvent → Prop
  | .append entry _ => session.Numbered entry
  | .reopen _ => session.NoLength env ∧ session.NextFree

instance (session : Session) : Decidable (session.NoLength env) :=
  inferInstanceAs (Decidable (_ ∨ _ ∨ _ ∧ _))

instance (session : Session) : Decidable session.NextFree :=
  inferInstanceAs (Decidable (_ = _))

instance (session : Session) (event : WriteEvent) : Decidable (session.WriteSafe env event) :=
  match event with
  | .append entry _ => inferInstanceAs (Decidable (session.Numbered entry))
  | .reopen _ => inferInstanceAs (Decidable (session.NoLength env ∧ session.NextFree))

end Session

/-- A store on a disk after some events. -/
def writeRun (env : Environment) (fuel : Nat) (options : LogStorageOptions)
    (disk : Disk FileName) (events : List WriteEvent) : Option Session :=
  Runs.run (fun state event => state.bind (Session.writeStep env fuel options · event))
    (Session.open_ env fuel options disk.boot []) events

/-- No event of a run leaves a record that was not appended. -/
def WriteSafeAlong (env : Environment) (fuel : Nat) (options : LogStorageOptions)
    (disk : Disk FileName) (events : List WriteEvent) : Prop :=
  Runs.Along (fun state event => state.bind (Session.writeStep env fuel options · event))
    (fun state event => ∀ session ∈ state, session.WriteSafe env event)
    (Session.open_ env fuel options disk.boot []) events

instance (disk : Disk FileName) (events : List WriteEvent) :
    Decidable (WriteSafeAlong env fuel options disk events) :=
  inferInstanceAs (Decidable (Runs.Along _ _ _ _))

variable {env : Environment} {fuel : Nat} {options : LogStorageOptions} {gone : Nat → Prop}
  {layout : Layout} {tail : List UInt8} {disk : Disk FileName} {entry : Entry}
  {store : LogSegmentStore} {files : Files FileName} {world : World FileName} {session : Session}
  {events : List WriteEvent}

/-- The bytes of a record that `Append` writes, when its `lseek` and its `write` come out so. -/
def writtenBytes (position write : Outcome) (entry : Entry) : List UInt8 :=
  if position = .fails ∨ write = .fails then [] else write.cut (frame 8 entry.body)

/-- The end of `Append` succeeds when all bytes of the record are written. -/
theorem writeRecord_writes {inode offset : Nat} {key : List UInt8}
    (position : store.curSegmentOffset = offset)
    (opened : world.files.inodes store.curSegmentFd = some inode)
    (copies : env.copied (key ++ [0]) store.indexKeyLength = entry.key)
    (endless : world.limit = none) :
    let written := writtenBytes (world.outcome 0) (world.outcome 1) entry
    ∃ after, LogSegmentStore.writeRecord env store key entry.value world =
        (some (if written.length = entry.size then
          (some (LogSegmentStore.toSegmentIndex store.curSegmentId offset
            (env.crc32 entry.body).toNat),
            { store with curSegmentOffset := ((offset + entry.size : Nat) : Int) })
          else (none, store)), after) ∧
      (world.files.withContents inode (writeAt (world.files.contents inode) offset
        written)).Moved after.files := by
  intro written
  obtain ⟨place, here⟩ := Files.descriptor_of_inode opened
  have length : entry.key.length = store.indexKeyLength := by
    rw [← copies, Environment.length_copied]
  have bytes : littleEndian 8 (store.indexKeyLength + entry.value.length) ++
      (entry.key ++ entry.value) = frame 8 entry.body := by
    simp [frame, Entry.body, length]
  have size : 0 < entry.size := by
    rw [Entry.size]
    omega
  obtain ⟨start, touched, files, outcome, endless'⟩ :=
    touch_returns (key.length + 1) store.indexKeyLength endless
  rw [LogSegmentStore.writeRecord, bind_apply, touched]
  dsimp only
  rw [copies, bytes, position, bind_apply]
  rw [← files] at opened here ⊢
  simp only [written, ← outcome]
  by_cases lost : start.outcome 0 = .fails
  · have failed : lseek store.curSegmentFd offset .start start =
        (some (-1), start.behind start.files) := call_fails endless' lost
    rw [failed]
    dsimp only
    rw [if_pos (by omega), pure_apply, writtenBytes, if_pos (Or.inl lost), List.length_nil,
      if_neg (by omega), writeAt_nil, Files.withContents_self]
    exact ⟨_, rfl, Files.Moved.refl _⟩
  rw [lseek_returns endless' lost here offset]
  dsimp only
  rw [if_neg (by simp), bind_apply]
  have moved := Files.moved_of_inode opened offset
  generalize placed : start.behind (start.files.withDescriptor store.curSegmentFd
    (some ⟨inode, offset⟩)) = middle
  have endless'' : middle.limit = none := by
    rw [← placed]
    exact endless'
  have outcome' : middle.outcome 0 = start.outcome 1 := by
    rw [← placed, World.behind_outcome]
  have files' : middle.files = start.files.withDescriptor store.curSegmentFd
      (some ⟨inode, offset⟩) := by
    rw [← placed]
    rfl
  by_cases short : start.outcome 1 = .fails
  · have failed : write store.curSegmentFd (frame 8 entry.body) middle =
        (some none, middle.behind middle.files) := call_fails endless'' (outcome'.trans short)
    rw [failed]
    dsimp only
    rw [if_pos (by simp), pure_apply, writtenBytes, if_pos (Or.inr short), List.length_nil,
      if_neg (by omega), writeAt_nil, Files.withContents_self]
    exact ⟨_, rfl, by rw [World.behind, files']; exact moved⟩
  have here' : middle.files.descriptors store.curSegmentFd = some ⟨inode, offset⟩ := by
    rw [files', Files.descriptor_self]
  have bytes' : writtenBytes (start.outcome 0) (start.outcome 1) entry =
      (start.outcome 1).cut (frame 8 entry.body) := if_neg (not_or.mpr ⟨lost, short⟩)
  rw [write_returns endless'' (by rw [outcome']; exact short) here', outcome', bytes']
  generalize (start.outcome 1).cut (frame 8 entry.body) = cut
  have stays : (start.files.withContents inode (writeAt (start.files.contents inode) offset
      cut)).Moved ((middle.files.withContents inode (writeAt (middle.files.contents inode) offset
        cut)).withDescriptor store.curSegmentFd (some ⟨inode, offset + cut.length⟩)) := by
    rw [files']
    refine ⟨rfl, ?_, rfl⟩
    simp [Files.update_inodes opened]
  by_cases whole : cut.length = entry.size
  · dsimp only
    rw [if_neg (by rw [length_frame_body, whole]; simp), if_pos whole, length_frame_body]
    exact ⟨_, rfl, stays⟩
  · dsimp only
    rw [if_pos (by rw [length_frame_body]; simpa using whole), if_neg whole]
    exact ⟨_, rfl, stays⟩

theorem length_writtenBytes (position write : Outcome) (entry : Entry) :
    (writtenBytes position write entry).length ≤ entry.size := by
  rw [writtenBytes]
  split
  · exact Nat.zero_le _
  · rw [← length_frame_body]
    cases write with
    | transfers most => exact List.length_take_le' ..
    | succeeds => exact le_rfl
    | fails => exact le_rfl

/-- All bytes of a record are the record. -/
theorem writtenBytes_whole {position write : Outcome}
    (whole : (writtenBytes position write entry).length = entry.size) :
    writtenBytes position write entry = frame 8 entry.body := by
  have positive : 0 < entry.size := by
    rw [Entry.size]
    omega
  rw [writtenBytes] at whole ⊢
  split at whole
  · rw [List.length_nil] at whole
    omega
  · rename_i tried
    rw [if_neg tried]
    rw [← length_frame_body] at whole
    cases write with
    | transfers most =>
      rw [Outcome.cut, List.length_take] at whole
      exact List.take_of_length_le (by omega)
    | succeeds => rfl
    | fails => rfl

/-- What comes of writing a record that fits behind the others: it is one of them, or some of its
bytes stand behind them. -/
def Wrote (env : Environment) (options : LogStorageOptions) (gone : Nat → Prop) (layout : Layout)
    (tail : List UInt8) (entry : Entry) (written : List UInt8) (store : LogSegmentStore)
    (result : Option SegmentIndex × LogSegmentStore) (files : Files FileName) : Prop :=
  if written.length = entry.size then
    result.1 = some ((layout.spot tail.length entry).index env) ∧
      Laid env options gone (layout.put entry) (tail.drop entry.size) result.2 files
  else
    result = (none, store) ∧
      Laid env options gone layout (written ++ tail.drop written.length) store files

namespace Laid

/-- The end of `Append` for a record that fits, whatever becomes of its calls. -/
theorem writeRecord_wrote (laid : Laid env options gone layout tail store world.files)
    (keyed : entry.key.length = options.indexKeyLength) (room : entry.size ≤ tail.length)
    (endless : world.limit = none) :
    ∃ result after, LogSegmentStore.writeRecord env store entry.key entry.value world =
        (some result, after) ∧
      Wrote env options gone layout tail entry
        (writtenBytes (world.outcome 0) (world.outcome 1) entry) store result after.files := by
  have positive : 0 < entry.size := by
    rw [Entry.size]
    omega
  have inUse := laid.inUse_of_room (Nat.lt_of_lt_of_le positive room)
  obtain ⟨inode, opened, -⟩ := laid.curOpen
  obtain ⟨after, returned, moved⟩ : ∃ after, LogSegmentStore.writeRecord env store entry.key
      entry.value world = (some _, after) ∧ _ :=
    writeRecord_writes laid.offset opened (env.copied_key (keyed.trans laid.keyLength.symm))
      endless
  have short := length_writtenBytes (world.outcome 0) (world.outcome 1) entry
  have written := (laid.overwritten inUse opened (short.trans room)).unchanged moved.unchanged
  refine ⟨_, after, returned, ?_⟩
  rw [Wrote]
  by_cases whole : (writtenBytes (world.outcome 0) (world.outcome 1) entry).length = entry.size
  · rw [if_pos whole, if_pos whole]
    rw [writtenBytes_whole whole, length_frame_body] at written
    refine ⟨?_, written.absorb keyed⟩
    rw [Layout.spot, if_pos room, laid.id, Placed.index]
  · rw [if_neg whole, if_neg whole]
    exact ⟨rfl, written⟩

/-- `Append` once there is room for the record. -/
theorem append_wrote (laid : Laid env options gone layout tail store files)
    (keyed : entry.key.length = options.indexKeyLength)
    (small : entry.size ≤ options.segmentMaxSize) {layout' : Layout} {tail' : List UInt8}
    {store' : LogSegmentStore} {middle : World FileName}
    (made : LogSegmentStore.makeRoom env store entry.size world = (some (true, store'), middle))
    (laid' : Laid env options gone layout' tail' store' middle.files)
    (room : entry.size ≤ tail'.length) (endless : middle.limit = none) :
    ∃ result after, LogSegmentStore.append env store entry.key entry.value world =
        (some result, after) ∧
      Wrote env options gone layout' tail' entry
        (writtenBytes (middle.outcome 0) (middle.outcome 1) entry) store' result after.files := by
  rw [laid.append_small keyed small, bind_apply, made]
  exact laid'.writeRecord_wrote keyed room endless

end Laid

/-- A session holds the records of some layout, with some bytes behind them. -/
def Session.Held (env : Environment) (options : LogStorageOptions) (session : Session) : Prop :=
  ∃ layout tail, session.Holds env options layout tail

namespace Session.Holds

/-- `Append` whose write of the record may be short. -/
theorem append_wrote (holds : session.Holds env options layout tail) {outcomes : List Outcome}
    {result : Option SegmentIndex × LogSegmentStore} {after : World FileName}
    {layout' : Layout} {tail' written : List UInt8} (same : layout'.placed = layout.placed)
    (room : entry.size ≤ tail'.length)
    (appended : session.store.append env entry.key entry.value
      { files := session.files, outcomes } = (some result, after))
    (wrote : Wrote env options (fun _ => False) layout' tail' entry written store result
      after.files) :
    ∃ session', session.appendWith env entry outcomes = some (result.1, session') ∧
      session'.Held env options := by
  refine ⟨_, by rw [Session.appendWith, appended], ?_⟩
  rw [Wrote] at wrote
  by_cases whole : written.length = entry.size
  · rw [if_pos whole] at wrote
    obtain ⟨index, laid⟩ := wrote
    refine ⟨_, _, laid, ?_⟩
    rw [Layout.placed_put, List.map_append, same, ← holds.issued, index, Layout.spot, if_pos room]
    rfl
  · rw [if_neg whole] at wrote
    obtain ⟨rfl, laid⟩ := wrote
    refine ⟨_, _, laid, ?_⟩
    rw [same, ← holds.issued]
    exact List.append_nil _

/-- `Append` keeps the records, however many bytes its write moves. -/
theorem shortWrite (usable : options.Usable) (holds : session.Holds env options layout tail)
    (keyed : entry.key.length = options.indexKeyLength) (numbered : session.Numbered entry)
    (moved : Nat) :
    ∃ result session', session.appendWith env entry (session.shortWrite entry moved) =
      some (result, session') ∧ session'.Held env options := by
  rcases Nat.lt_or_ge options.segmentMaxSize entry.size with big | small
  · refine ⟨none, session, ?_, layout, tail, holds⟩
    rw [Session.appendWith, holds.laid.append_big keyed big]
    simp
  have rolls : session.Rolls entry ↔ _ := holds.rolls_iff usable
  rcases Nat.lt_or_ge tail.length entry.size with full | room
  · have outcomes : session.shortWrite entry moved =
        List.replicate 13 .succeeds ++ [.transfers moved] := by
      rw [Session.shortWrite, if_pos (rolls.mpr ⟨small, full⟩)]
    obtain ⟨inode, metaInode, open_⟩ := holds.laid.openFiles
    obtain ⟨store, middle, performs, -, laid⟩ := holds.laid.makeRoom_rolls usable.sized full small
      (holds.more usable numbered small full) not_false open_
    obtain ⟨overrun, made⟩ := performs.returns
      { files := session.files, outcomes := session.shortWrite entry moved } rfl
      (World.goes_of_replicate outcomes (by simp [rollDisks])) (by simp)
    have room : entry.size ≤ (List.replicate options.segmentMaxSize (0 : UInt8)).length := by
      rw [List.length_replicate]
      exact small
    obtain ⟨result, after, appended, wrote⟩ :=
      holds.laid.append_wrote keyed small made laid room rfl
    exact ⟨_, holds.append_wrote (Layout.placed_roll _) room appended wrote⟩
  · obtain ⟨middle, performs, same⟩ := holds.laid.makeRoom_fits usable.sized room
    obtain ⟨overrun, made⟩ := performs.returns
      { files := session.files, outcomes := session.shortWrite entry moved } rfl
      (by simp [World.Goes]) (by simp)
    obtain ⟨result, after, appended, wrote⟩ := holds.laid.append_wrote keyed small made
      (holds.laid.unchanged same.unchanged) room rfl
    exact ⟨_, holds.append_wrote rfl room appended wrote⟩

/-- The bytes behind the last record of a session. -/
theorem leftOver_eq (holds : session.Holds env options layout tail) :
    session.leftOver = tail := by
  have current := (holds.laid.stored not_false).current
  have name : FileName.segment session.store.curSegmentId = layout.currentName := by
    rw [holds.laid.id, Layout.currentName]
  rw [Session.leftOver, name, current, holds.laid.offset, Int.toNat_natCast, List.drop_left]

theorem ends_of_noLength (holds : session.Holds env options layout tail)
    (noLength : session.NoLength env) : Ends 8 tail := by
  rw [Session.NoLength, holds.leftOver_eq] at noLength
  have addressed := env.addressed
  rcases noLength with short | zero | ⟨behind, room⟩
  · exact ends_of_short short
  · exact (ends_iff _).mpr ⟨.inr (.inl zero), by rw [zero]; decide⟩
  · exact (ends_iff _).mpr ⟨.inr (.inr behind), by omega⟩

/-- The number of the next segment is not used up as long as it has no file. -/
theorem more_of_nextFree (holds : session.Holds env options layout tail)
    (free : session.NextFree) : layout.closed.length + 1 < 2 ^ 32 :=
  holds.laid.more_of_missing not_false free

end Session.Holds

/-- One event that leaves no record that was not appended. -/
theorem Session.Held.writeStep (usable : options.Usable) (enough : options.segmentMaxSize < fuel)
    (held : session.Held env options) {event : WriteEvent}
    (keyed : ∀ entry moved, event = .append entry moved →
      entry.key.length = options.indexKeyLength)
    (safe : session.WriteSafe env event) :
    ∃ session', session.writeStep env fuel options event = some session' ∧
      session'.Held env options := by
  obtain ⟨layout, tail, holds⟩ := held
  cases event with
  | append entry moved =>
    obtain ⟨result, session', appended, held'⟩ :=
      holds.shortWrite usable (keyed entry moved rfl) safe moved
    exact ⟨session', by rw [Session.writeStep, appended]; rfl, held'⟩
  | reopen how =>
    obtain ⟨session', reopened, holds'⟩ :=
      holds.reopen usable enough (holds.ends_of_noLength safe.1) how
    exact ⟨session', reopened, layout, _, holds'⟩

/-- A store that has been opened again is where the one before was, and a scan of it comes to an
end and finds the records whose `Append` succeeded, in their order, and nothing else. -/
structure Session.FindsAppended (env : Environment) (before reopened : Session) : Prop where
  id : reopened.store.curSegmentId = before.store.curSegmentId
  offset : reopened.store.curSegmentOffset = before.store.curSegmentOffset
  scan : ∃ bound, ∀ calls > bound, Completes (scan env reopened.store calls 0 0) reopened.files
    (before.issued.map fun (entry, index) => (entry.key, index)) reopened.files.Unchanged

/-- As long as no length stands behind the last record when a store is opened again, short writes
leave no record. -/
theorem short_writes_leave_no_record (usable : options.Usable) (fresh : Fresh disk)
    (enough : options.segmentMaxSize < fuel) {how : Reopening}
    (keyed : ∀ entry moved, .append entry moved ∈ events →
      entry.key.length = options.indexKeyLength)
    (safe : WriteSafeAlong env fuel options disk (events ++ [.reopen how])) :
    ∃ before reopened, writeRun env fuel options disk events = some before ∧
      writeRun env fuel options disk (events ++ [.reopen how]) = some reopened ∧
      before.FindsAppended env reopened := by
  obtain ⟨start, opened, holds⟩ := fresh.opened usable.sized
  have held : start.Held env options := ⟨_, _, holds⟩
  rw [WriteSafeAlong, Runs.along_append, opened] at safe
  obtain ⟨early, last, -⟩ := safe
  have ran := early.goes_on (fun session event member held safe => held.writeStep usable enough
    (fun entry moved same => keyed entry moved (same ▸ member)) safe) held
  obtain ⟨before, ran, layout, tail, holds'⟩ := ran
  obtain ⟨noLength, free⟩ := last before ran
  have ends := holds'.ends_of_noLength noLength
  obtain ⟨reopened, stepped, holds''⟩ := holds'.reopen usable enough ends how
  refine ⟨before, reopened, by rw [writeRun, opened, ran], ?_, ?_, ?_, ?_⟩
  · rw [writeRun, opened, Runs.run_concat, ran]
    exact stepped
  · rw [holds''.laid.id, holds'.laid.id]
  · rw [holds''.laid.offset, holds'.laid.offset]
  · refine ⟨layout.placed.length + layout.closed.length + 1, fun calls many => ?_⟩
    have ends' : Ends 8 (openedTail options layout tail) := by
      rw [openedTail]
      split
      · exact ends_zeros (by decide) _
      · exact ends
    have found : before.issued.map (fun (entry, index) => (entry.key, index)) =
        layout.placed.map (Placed.found env) := by
      rw [holds'.issued, List.map_map]
      rfl
    rw [found]
    exact holds''.laid.scan_placed usable ends' (holds'.more_of_nextFree free)
      (fun _ => not_false) many

/-- Segments that hold several short records. -/
def several : LogStorageOptions := ⟨"db", 20, 1, false⟩

theorem several_usable : several.Usable := ⟨by decide, by decide, by decide⟩

/-- A record of which three bytes were written is appended again. -/
theorem short_writes_leave_no_record_again :
    ∃ before reopened,
      writeRun zlib 21 several Disk.empty [.append ⟨[1], []⟩ 3, .append ⟨[1], []⟩ 9] =
        some before ∧
      writeRun zlib 21 several Disk.empty
        ([.append ⟨[1], []⟩ 3, .append ⟨[1], []⟩ 9] ++ [.reopen .restarted]) = some reopened ∧
      before.FindsAppended zlib reopened :=
  short_writes_leave_no_record several_usable fresh_empty (by decide)
    (fun entry moved member => by
      simp only [List.mem_cons, WriteEvent.append.injEq, List.not_mem_nil, or_false] at member
      rcases member with ⟨rfl, rfl⟩ | ⟨rfl, rfl⟩
      · rfl
      · rfl)
    (by decide +kernel)

/-- A record of which the last byte was not written is found, and so is one within the bytes that
a longer record left behind a shorter one. -/
theorem short_write_leaves_record :
    (writeRun zlib 21 several Disk.empty [.append ⟨[1], [5]⟩ 9]).map
        (fun session => session.issued.map fun issued => issued.1.key) = some [] ∧
      (writeRun zlib 21 several Disk.empty [.append ⟨[1], [5]⟩ 9, .reopen .restarted]).map
        (fun session => (session.store.curSegmentOffset,
          ((scan zlib session.store 5 0 0).run session.files).1.map (List.map Prod.fst))) =
        some (10, some [[1]]) ∧
      (writeRun zlib 21 several Disk.empty
        [.append ⟨[1], [1, 0, 0, 0, 0, 0, 0, 0, 7, 0]⟩ 18, .append ⟨[2], []⟩ 9]).map
        (fun session => session.issued.map fun issued => issued.1.key) = some [[2]] ∧
      (writeRun zlib 21 several Disk.empty
        [.append ⟨[1], [1, 0, 0, 0, 0, 0, 0, 0, 7, 0]⟩ 18, .append ⟨[2], []⟩ 9,
          .reopen .restarted]).map
        (fun session => (session.store.curSegmentOffset,
          ((scan zlib session.store 5 0 0).run session.files).1.map (List.map Prod.fst))) =
        some (18, some [[2], [7]]) := by
  decide +kernel

end Paxosme
