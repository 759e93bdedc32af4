import Paxosme.Lib.Demands
import Paxosme.Verif.AcknowledgedRecords

/-!
# Calls of `Append` that fail

Each system call that `Append` makes may fail, and a write may move a part of its bytes. As long as
no segment is started that changes nothing but bytes behind the last record. Once the segment in use
has been cut the next one has to be started whole, or the store is left without a segment: only
`close` and `access` may fail, and the end of the checksum that is in the metadata file already.
-/

namespace Paxosme

open Posix Bytes Framing

variable {env : Environment} {options : LogStorageOptions} {store : LogSegmentStore}
  {files : Files FileName}

/-- The write of the checksum of a number leaves all of its bytes in the metadata file: those that
it does not move stand there already. -/
def ChecksumStands (env : Environment) (old : List UInt8) (segmentId : SegmentId)
    (outcome : Outcome) : Prop :=
  metadataOf old segmentId (outcome.moved (checksumBytes env segmentId)) =
    metadataOf old segmentId (checksumBytes env segmentId)

instance (old : List UInt8) (segmentId : SegmentId) (outcome : Outcome) :
    Decidable (ChecksumStands env old segmentId outcome) :=
  inferInstanceAs (Decidable (_ = _))

/-- What `UpdateMetadata` asks of its calls, when the write of the checksum comes out so: a short
one ends it with `return -1`. -/
def updateDemands (outcome : Outcome) : List Demand :=
  [.runs, .moves 4, .any] ++ if (Demand.moves 8).Met outcome then [.runs] else []

/-- What `PaddingIfNewSegment` asks of its calls for a segment of such bytes. -/
def paddingDemands (bytes : List UInt8) : List Demand :=
  if bytes = [] then [.runs, .runs, .moves 1, .runs] else [.runs]

/-- What `NewSegment` asks of its calls behind those of `UpdateMetadata`: `access`, which must not
find the next segment, `open`, and those of `PaddingIfNewSegment`. -/
def segmentDemands (segment : Option (List UInt8)) : List Demand :=
  [if segment = none then .any else .is .fails, .runs] ++ paddingDemands (segment.getD [])

namespace LogSegmentStore

variable {inode metaInode offset : Nat} {outcomes : List Outcome}

/-- The metadata file as `UpdateMetadata` leaves it when the write of the checksum comes out so. -/
def updatedMetadata (env : Environment) (store : LogSegmentStore) (old : List UInt8)
    (outcome : Outcome) : List UInt8 :=
  metadataOf old (store.curSegmentId + 1)
    (outcome.moved (checksumBytes env (store.curSegmentId + 1)))

/-- The bytes of a segment once `PaddingIfNewSegment` has seen it. -/
def paddedBytes (store : LogSegmentStore) (bytes : List UInt8) : List UInt8 :=
  if bytes = [] then List.replicate store.segmentMaxSize 0 else bytes

/-- `UpdateMetadata`. -/
theorem updateMetadata_settles (opened : files.inodes store.metaFd = some metaInode) :
    let outcome := outcomes.getD 2 .succeeds
    Settles (updateMetadata env store) files outcomes (updateDemands outcome) true
      (files.withContents metaInode
        (store.updatedMetadata env (files.contents metaInode) outcome)).Moved
      fun result after => result = false ∧ after.inodes = files.inodes := by
  intro outcome
  obtain ⟨position, here⟩ := Files.descriptor_of_inode opened
  have eight : (checksumBytes env (store.curSegmentId + 1)).length = 8 := by simp [checksumBytes]
  have third : outcomes.tail.tail.headD .succeeds = outcome := by
    simp [outcome, List.headD_eq_head?_getD, List.head?_tail]
  refine (Settles.lseek here 0).step ?_ ?_
  · rintro _ after ⟨rfl, rfl⟩
    exact Ends.pure ⟨rfl, rfl⟩
  rw [if_neg (by simp)]
  refine (Settles.write Files.descriptor_self (length_idBytes _)).step ?_ ?_
  · rintro result after ⟨short, written, -, moved⟩
    dsimp only
    rw [if_pos short]
    refine Ends.pure ⟨rfl, ?_⟩
    rw [moved.open_]
    simp [Files.update_inodes opened]
  rw [if_neg (by simp)]
  refine (Settles.write_some Files.descriptor_self
    (checksumBytes env (store.curSegmentId + 1))).pass ?_
  rw [third]
  have written : writeAt (writeAt (files.contents metaInode) 0 (idBytes (store.curSegmentId + 1))) 4
      (outcome.moved (checksumBytes env (store.curSegmentId + 1))) =
        store.updatedMetadata env (files.contents metaInode) outcome := by
    rw [writeAt_id, writeAt_checksum]
    rfl
  rw [← eight] at *
  by_cases met : (Demand.moves (checksumBytes env (store.curSegmentId + 1)).length).Met outcome
  · obtain ⟨runs, whole⟩ := Demand.moved_of_moves met
    have moved : some (outcome.moved (checksumBytes env (store.curSegmentId + 1))).length =
        some (checksumBytes env (store.curSegmentId + 1)).length := by rw [whole]
    rw [if_pos met, if_neg runs, if_neg (not_not.mpr moved)]
    refine (Settles.fsync Files.descriptor_self).imp ?_ ?_
    · rintro after rfl
      refine ⟨?_, ?_, rfl⟩
      · simp [Disk.withContents_same, written]
      · simp [Files.update_inodes opened]
    · rintro result after ⟨rfl, rfl⟩
      refine ⟨rfl, ?_⟩
      simp [Files.update_inodes opened]
  · rw [if_neg met, if_pos (Demand.short_of_moves met)]
    refine Settles.pure ⟨?_, ?_, rfl⟩
    · simp [Disk.withContents_same, written]
    · simp [Files.update_inodes opened]

/-- `PaddingIfNewSegment`. -/
theorem paddingIfNewSegment_settles (opened : files.inodes store.curSegmentFd = some inode)
    (positive : 0 < store.segmentMaxSize) (small : store.segmentMaxSize < 2 ^ 63)
    (short : (files.contents inode).length < 2 ^ 64) :
    Settles (paddingIfNewSegment store) files outcomes (paddingDemands (files.contents inode))
      (if files.contents inode = [] then 1 else 0,
        { store with curSegmentFileSize := (store.paddedBytes (files.contents inode)).length })
      (files.withContents inode (store.paddedBytes (files.contents inode))).Moved
      fun result _ => result = (-1, store) := by
  obtain ⟨position, here⟩ := Files.descriptor_of_inode opened
  have seeks : Settles (lseek store.curSegmentFd 0 .finish) files outcomes [.runs] _ _ _ :=
    Settles.lseek_finish here
  by_cases empty : files.contents inode = []
  · have last : sizeT (store.segmentMaxSize - 1) = store.segmentMaxSize - 1 := by
      have cast : (store.segmentMaxSize : Int) - 1 = ((store.segmentMaxSize - 1 : Nat) : Int) := by
        omega
      rw [cast, sizeT_of_lt (by omega)]
    have zeros := writeAt_last positive
    rw [paddingDemands, paddedBytes, if_pos empty, if_pos empty, if_pos empty,
      List.length_replicate]
    refine seeks.step ?_ ?_
    · rintro _ after ⟨rfl, rfl⟩
      exact Ends.pure rfl
    rw [empty, if_neg (by simp), if_neg (by simp), last]
    dsimp only
    rw [offT_of_lt (by omega)]
    refine (Settles.lseek Files.descriptor_self _).step ?_ ?_
    · rintro _ after ⟨rfl, rfl⟩
      have failed : sizeT (-1) ≠ store.segmentMaxSize - 1 := by
        rw [show sizeT (-1) = 2 ^ 64 - 1 by decide]
        omega
      rw [if_pos failed]
      exact Ends.pure rfl
    rw [sizeT_of_lt (by omega), if_neg (by simp)]
    refine (Settles.write Files.descriptor_self (rfl : [0].length = 1)).step ?_ ?_
    · rintro result after ⟨failed, -⟩
      rw [if_pos failed]
      exact Ends.pure rfl
    rw [if_neg (by simp)]
    simp only [Files.withDescriptor_toDisk, empty, zeros]
    refine (Settles.lseek Files.descriptor_self 0).step ?_ ?_
    · rintro _ after ⟨rfl, rfl⟩
      exact Ends.pure rfl
    rw [if_neg (by simp)]
    refine Settles.pure ⟨rfl, ?_, rfl⟩
    simp [Files.update_inodes opened]
  · have length : 0 < (files.contents inode).length := List.length_pos_iff.mpr empty
    rw [paddingDemands, paddedBytes, if_neg empty, if_neg empty, if_neg empty,
      Files.withContents_self]
    refine seeks.step ?_ ?_
    · rintro _ after ⟨rfl, rfl⟩
      exact Ends.pure rfl
    rw [if_neg (by omega), if_pos (by omega), sizeT_of_lt short]
    exact Settles.pure (Files.moved_of_inode opened _)

/-- The store once `NewSegment` has opened the next segment, which has so many bytes. -/
def startedStore (store : LogSegmentStore) (fd : FD) (size : Nat) : LogSegmentStore :=
  { store with
    curSegmentId := store.curSegmentId + 1
    curSegmentFd := fd
    curSegmentFileSize := size
    curSegmentOffset := 0 }

/-- The next segment is open behind a metadata file of such bytes, and padded. -/
def Started (store : LogSegmentStore) (files : Files FileName) (metaInode : Nat)
    (metadata : List UInt8) (after : Files FileName) : Prop :=
  ∃ inode opened,
    (files.withContents metaInode metadata).OpenedAs (.segment (store.curSegmentId + 1)) inode
      opened ∧
    (opened.withContents inode (store.paddedBytes (opened.contents inode))).Moved after

/-- The store is left without a segment: it takes the next one to be in use, or has closed the one
that it takes to be in use. -/
def Stranded (store store' : LogSegmentStore) (after : Files FileName) : Prop :=
  store'.curSegmentId = store.curSegmentId + 1 ∨ store' = store ∧
    after.inodes store.curSegmentFd = none

/-- `NewSegment`, once the segment in use has been closed. -/
theorem newSegment_settles (sound : files.Sound)
    (opened : files.inodes store.metaFd = some metaInode)
    (closed : files.inodes store.curSegmentFd = none)
    (apart : files.names (.segment (store.curSegmentId + 1)) ≠ some metaInode)
    (positive : 0 < store.segmentMaxSize) (small : store.segmentMaxSize < 2 ^ 63)
    (short : ((files.view (.segment (store.curSegmentId + 1))).getD []).length < 2 ^ 64) :
    let outcome := outcomes.getD 2 .succeeds
    let segment := files.view (.segment (store.curSegmentId + 1))
    Settles (newSegment env store) files outcomes (updateDemands outcome ++ segmentDemands segment)
      (true, store.startedStore files.nextDescriptor (store.paddedBytes (segment.getD [])).length)
      (store.Started files metaInode (store.updatedMetadata env (files.contents metaInode) outcome))
      fun result after => result.1 = false ∧ store.Stranded result.2 after := by
  intro outcome segment
  refine (updateMetadata_settles opened).bind ?_ fun middle moved => ?_
  · rintro _ after ⟨rfl, open_⟩
    exact Ends.pure ⟨rfl, .inr ⟨rfl, by rw [open_, closed]⟩⟩
  have next : middle.nextDescriptor = files.nextDescriptor := moved.next
  rw [← next]
  have seen : middle.view (.segment (store.curSegmentId + 1)) = segment := by
    rw [moved.disk, Files.withContents_toDisk, Disk.view_withContents_of_ne apart]
  have sound' : middle.Sound := moved.unchanged.sound (sound.withContents _ _)
  have finds (outcomes : List Outcome) : Settles (segmentExists (store.curSegmentId + 1)) middle
      outcomes _ _ _ _ := Settles.access_not _
  rw [seen] at finds
  refine (finds _).step ?_ ?_
  · rintro _ after ⟨rfl, rfl⟩
    exact Ends.pure ⟨rfl, .inl rfl⟩
  rw [if_neg (by simp)]
  refine (Settles.openFile sound' _).bind ?_ ?_
  · rintro _ after ⟨rfl, rfl⟩
    exact Ends.pure ⟨rfl, .inl rfl⟩
  rintro started ⟨inode, openedAs⟩
  rw [if_neg (natCast_ne_failed _)]
  have contents : started.contents inode = segment.getD [] := by rw [openedAs.contents, seen]
  rw [← contents] at short ⊢
  have pads (outcomes : List Outcome) : Settles (paddingIfNewSegment { store with
      curSegmentId := store.curSegmentId + 1, curSegmentFd := middle.nextDescriptor })
      started outcomes _ _ _ _ :=
    paddingIfNewSegment_settles (by rw [openedAs.open_, Function.update_self]) positive small short
  refine (pads _).andReturn ?_ fun after moved' => ?_
  · rintro _ after rfl
    exact (Ends.close _ _).bind fun _ _ _ => Ends.pure ⟨rfl, .inl rfl⟩
  dsimp only
  rw [if_neg (by split <;> decide)]
  exact Settles.pure ⟨inode, started, openedAs.of_moved moved, moved'⟩

/-- What `Append` asks of its calls when it starts a segment: `ftruncate`, `close`, and those of
`NewSegment`. -/
def startDemands (outcome : Outcome) (segment : Option (List UInt8)) : List Demand :=
  [.runs, .any] ++ (updateDemands outcome ++ segmentDemands segment)

/-- `Append` starts the next segment, once `ftruncate` has gone through. -/
theorem makeRoom_settles {bufferLength : Nat} (position : store.curSegmentOffset = offset)
    (full : store.curSegmentFileSize < sizeT (store.curSegmentOffset + bufferLength))
    (sound : files.Sound) (opened : files.inodes store.curSegmentFd = some inode)
    (metaOpened : files.inodes store.metaFd = some metaInode) (apart : metaInode ≠ inode)
    (next : files.names (.segment (store.curSegmentId + 1)) ≠ some inode)
    (other : files.names (.segment (store.curSegmentId + 1)) ≠ some metaInode)
    (positive : 0 < store.segmentMaxSize) (small : store.segmentMaxSize < 2 ^ 63)
    (short : ((files.view (.segment (store.curSegmentId + 1))).getD []).length < 2 ^ 64)
    (cuts : outcomes.headD .succeeds ≠ .fails) :
    let outcome := outcomes.getD 4 .succeeds
    let segment := files.view (.segment (store.curSegmentId + 1))
    Settles (makeRoom env store bufferLength) files outcomes (startDemands outcome segment)
      (true, store.startedStore files.nextDescriptor (store.paddedBytes (segment.getD [])).length)
      (store.Started (cutSegment store files inode offset) metaInode
        (store.updatedMetadata env (files.contents metaInode) outcome))
      fun result after => result.1 = false ∧ store.Stranded result.2 after := by
  intro outcome segment
  obtain ⟨place, here⟩ := Files.descriptor_of_inode opened
  have fds : store.metaFd ≠ store.curSegmentFd := fun same => by
    rw [same, opened] at metaOpened
    exact apart (Option.some.inj metaOpened).symm
  have metaOpened' : (cutSegment store files inode offset).inodes store.metaFd =
      some metaInode := by
    simp [cutSegment, fds, metaOpened]
  have closed : (cutSegment store files inode offset).inodes store.curSegmentFd = none := by
    simp [cutSegment]
  have old : (cutSegment store files inode offset).contents metaInode = files.contents metaInode :=
    Disk.withContents_other _ apart _
  have seen : (cutSegment store files inode offset).view (.segment (store.curSegmentId + 1)) =
      segment := Disk.view_withContents_of_ne next _
  have fifth : outcomes.tail.tail.getD 2 .succeeds = outcome := by
    simp [outcome, List.getD_eq_getElem?_getD, List.getElem?_tail]
  have start : Settles (newSegment env store) (cutSegment store files inode offset)
      outcomes.tail.tail _ _ _ _ :=
    newSegment_settles ((sound.withContents _ _).closed _) metaOpened' closed other positive small
      (by rw [seen]; exact short)
  rw [fifth, old, seen] at start
  rw [makeRoom, if_pos full, position]
  refine ((Settles.ftruncate here offset).of_met ⟨cuts, trivial⟩).pass ?_
  rw [if_neg (by simp)]
  refine (Settles.close _ _).pass ?_
  refine start.andReturn ?_ fun after moved => ?_
  · rintro ⟨_, result⟩ after ⟨rfl, stranded⟩
    exact Ends.pure ⟨rfl, stranded⟩
  dsimp only
  rw [if_neg (by simp)]
  exact Settles.pure moved

/-- `Append` leaves everything as it is when `ftruncate` fails. -/
theorem makeRoom_refused {bufferLength : Nat}
    (full : store.curSegmentFileSize < sizeT (store.curSegmentOffset + bufferLength))
    (fails : outcomes.headD .succeeds = .fails) :
    Settles (makeRoom env store bufferLength) files outcomes [.is .fails] (false, store) (· = files)
      fun _ _ => False := by
  rw [makeRoom, if_pos full]
  exact (Settles.call_fails fails).pass (Settles.pure rfl)

/-- `Append` writes the record behind the last one. -/
theorem writeRecord_settles {entry : Entry} {key : List UInt8}
    (position : store.curSegmentOffset = offset)
    (opened : files.inodes store.curSegmentFd = some inode)
    (copies : env.copied (key ++ [0]) store.indexKeyLength = entry.key) :
    Settles (writeRecord env store key entry.value) files outcomes [.runs, .moves entry.size]
      (some (toSegmentIndex store.curSegmentId offset (env.crc32 entry.body).toNat),
        { store with curSegmentOffset := ((offset + entry.size : Nat) : Int) })
      (files.withContents inode
        (writeAt (files.contents inode) offset (frame 8 entry.body))).Moved
      fun result after => result = (none, store) ∧ ∃ written, written.length ≤ entry.size ∧
        (files.withContents inode (writeAt (files.contents inode) offset written)).Moved after := by
  obtain ⟨place, here⟩ := Files.descriptor_of_inode opened
  have length : entry.key.length = store.indexKeyLength := by
    rw [← copies, Environment.length_copied]
  have bytes : littleEndian 8 (store.indexKeyLength + entry.value.length) ++
      (entry.key ++ entry.value) = frame 8 entry.body := by
    simp [frame, Entry.body, length]
  refine (Settles.touch _ _ _).skip ?_
  dsimp only
  rw [copies, bytes, position]
  refine (Settles.lseek here offset).step ?_ ?_
  · rintro _ after ⟨rfl, rfl⟩
    have failed : (-1 : Int) ≠ offset := by omega
    rw [if_pos failed]
    refine Ends.pure ⟨rfl, [], Nat.zero_le _, ?_⟩
    rw [writeAt_nil, Files.withContents_self]
    exact Files.Moved.refl _
  rw [if_neg (by simp)]
  refine (Settles.write Files.descriptor_self (length_frame_body entry)).step ?_ ?_
  · rintro result after ⟨short, written, few, moved⟩
    rw [← length_frame_body entry] at short
    rw [if_pos short]
    refine Ends.pure ⟨rfl, written, few, ?_⟩
    have moves : files.Moved (files.withDescriptor store.curSegmentFd (some ⟨inode, offset⟩)) :=
      Files.moved_of_inode opened offset
    exact (moves.withContents inode _).trans moved
  rw [length_frame_body, if_neg (by simp)]
  refine Settles.pure ⟨rfl, ?_, rfl⟩
  simp [Files.update_inodes opened]

/-- The next segment has a descriptor, and a name that leads to it. -/
theorem Started.opened {metadata : List UInt8} {after : Files FileName}
    (started : store.Started files metaInode metadata after) :
    ∃ inode, after.inodes files.nextDescriptor = some inode ∧
      after.names (.segment (store.curSegmentId + 1)) = some inode := by
  obtain ⟨inode, opened, openedAs, moved⟩ := started
  refine ⟨inode, ?_, ?_⟩
  · rw [moved.open_, Files.withContents_inodes, openedAs.open_]
    exact Function.update_self ..
  · rw [moved.disk]
    exact openedAs.named

/-- What is written to the next segment leaves the metadata file as it has been updated. -/
theorem Started.view_metadata {metadata : List UInt8} {after : Files FileName}
    (started : store.Started files metaInode metadata after)
    (metaNamed : files.names .metadata = some metaInode)
    (named : after.names (.segment (store.curSegmentId + 1)) = some inode) (bytes : List UInt8) :
    (after.withContents inode bytes).view .metadata = some metadata := by
  obtain ⟨other, opened, openedAs, moved⟩ := started
  rw [moved.disk] at named
  obtain rfl : other = inode := Option.some.inj (openedAs.named.symm.trans named)
  have apart : opened.names .metadata ≠ some other := fun same =>
    FileName.noConfusion (openedAs.sound.single _ _ _ same openedAs.named)
  have metaNamed' : (files.withContents metaInode metadata).names .metadata = some metaInode :=
    metaNamed
  have seen : (files.withContents metaInode metadata).view .metadata = some metadata := by
    rw [Disk.view_of_name metaNamed', Files.withContents_toDisk, Disk.withContents_same]
  rw [Files.withContents_toDisk, moved.disk, Files.withContents_toDisk,
    Disk.withContents_withContents, Disk.view_withContents_of_ne apart, openedAs.view,
    Function.update_of_ne FileName.noConfusion, seen]

/-- `Read` finds nothing in a segment that has no file, or an empty one. -/
theorem read_secures_none {segmentId : SegmentId} {checksum : Nat} (small : offset < 2 ^ 63)
    (fits : checksum < 2 ^ 64)
    (empty : ∀ inode, files.names (.segment segmentId) = some inode → files.contents inode = []) :
    Secures (read env store (toSegmentIndex segmentId offset checksum)) files (fun _ => True)
      fun result _ => result = none := by
  have finish (fd : FD) {after : Files FileName} : Secures (do Posix.close fd; pure none) after
      (fun _ => True) fun (result : Option (List UInt8 × List UInt8)) _ => result = none :=
    (Secures.close trivial).bind fun _ _ _ => Secures.pure rfl
  rw [read, parseSegmentIndex_toSegmentIndex segmentId small fits]
  refine (Secures.openFile trivial).bind fun fd opened result => ?_
  obtain ⟨rfl, rfl⟩ | ⟨rfl, inode, named, rfl⟩ := result
  · exact Secures.pure rfl
  rw [if_neg (natCast_ne_failed _)]
  refine (Secures.lseek_start trivial _).bind ?_
  rintro pos sought ⟨moved, place⟩
  refine Secures.ite (fun _ => finish _) fun here => ?_
  obtain ⟨-, other, open_, stood⟩ := place.resolve_left (by omega)
  obtain rfl : inode = other := by
    rw [Files.opened_inodes, Function.update_self] at open_
    exact Option.some.inj open_
  have contents : sought.contents inode = [] := by
    rw [moved.disk]
    exact empty inode named
  refine (Secures.read trivial 8).bind fun first after result => ?_
  have less : readLen first ≠ 8 := by
    obtain ⟨rfl, -⟩ | ⟨found, position, bytes, opened, part, rfl, -⟩ := result
    · decide
    · obtain ⟨rfl, rfl⟩ := OpenFile.mk.inj (Option.some.inj (stood.symm.trans opened))
      rw [contents, readAt, List.drop_nil, List.take_nil, List.prefix_nil] at part
      rw [part]
      decide
  exact Secures.ite (fun _ => finish _) fun eight => absurd less eight

/-- `ReplayLog` changes no file, and an offset that it returns is no further than the end of the
segment, whatever stands there and whatever becomes of its calls. -/
theorem replayLog_secures (env : Environment) (store : LogSegmentStore) (sound : files.Sound)
    {segmentId : SegmentId} (named : files.names (.segment segmentId) = some inode)
    (short : (files.contents inode).length < 2 ^ 31) (number : Nat) :
    Secures (replayLog env store segmentId number) files (fun _ => True) fun result after =>
      files.Unchanged after ∧ (0 < result.1 → ∃ next : Nat, result.1 = next ∧
        next ≤ (files.contents inode).length) := by
  have same : files.Unchanged files := (Files.Moved.refl files).unchanged
  rw [replayLog]
  refine (Secures.access trivial).bind fun found _ equal => ?_
  rw [equal]
  refine Secures.ite (fun _ => Secures.pure ⟨same, fun far => absurd far (by decide)⟩) fun _ => ?_
  refine (Secures.openFile_found trivial named true).bind fun fd opened result => ?_
  obtain ⟨rfl, rfl⟩ | ⟨rfl, rfl⟩ := result
  · exact Secures.pure ⟨same, fun far => absurd far (by decide)⟩
  rw [if_neg (natCast_not_neg _)]
  have finish {after : Files FileName} (result : Int × Option (List UInt8 × SegmentIndex))
      (moved : (files.opened inode).Moved after)
      (near : 0 < result.1 → ∃ next : Nat, result.1 = next ∧
        next ≤ (files.contents inode).length) :
      Secures (do Posix.close files.nextDescriptor; pure result) after (fun _ => True)
        fun result after => files.Unchanged after ∧ (0 < result.1 → ∃ next : Nat, result.1 = next ∧
          next ≤ (files.contents inode).length) := by
    refine (Secures.close trivial).bind fun _ closed equal => Secures.pure ⟨?_, near⟩
    rw [equal]
    exact sound.unchanged_closed moved.disk (by rw [moved.open_, Files.opened_inodes])
      (by rw [moved.next]; rfl)
  refine (Secures.lseek_start trivial _).bind ?_
  rintro pos sought ⟨moved, place⟩
  refine Secures.ite (fun _ => finish _ moved fun far => absurd far (by decide)) fun here => ?_
  obtain ⟨-, other, open_, stood⟩ := place.resolve_left here
  obtain rfl : inode = other := by
    rw [Files.opened_inodes, Function.update_self] at open_
    exact Option.some.inj open_
  have contents : sought.contents = files.contents := congrArg Disk.contents moved.disk
  refine (Secures.read trivial 8).bind fun first read result => ?_
  have moved' : sought.Moved read := by
    obtain ⟨-, rfl⟩ | ⟨found, position, bytes, opened, -, -, rfl⟩ := result
    · exact Files.Moved.refl _
    · exact Files.moved_of_inode (by rw [Files.inodes, opened]; rfl) _
  have moved := moved.trans moved'
  refine Secures.ite (fun _ => finish _ moved fun far => absurd far (by decide)) fun eight => ?_
  refine Secures.ite (fun _ => finish _ moved fun far => absurd far (by decide)) fun filled => ?_
  obtain ⟨rfl, -⟩ | ⟨found, position, bytes, opened, part, rfl, rfl⟩ := result
  · exact absurd rfl filled
  obtain ⟨rfl, rfl⟩ := OpenFile.mk.inj (Option.some.inj (stood.symm.trans opened))
  rw [contents, Int.toNat_natCast] at part
  have count := part.length_le
  rw [readAt, List.length_take, List.length_drop] at count
  have eight : bytes.length = 8 := by
    have enough : ¬ bytes.length < 8 := eight
    omega
  have sum : ofLittleEndian bytes < 2 ^ 64 := by
    have sum := ofLittleEndian_lt bytes
    rw [eight] at sum
    exact sum
  rw [Option.getD_some]
  generalize ofLittleEndian bytes = kvSize at sum filled ⊢
  refine (Secures.touch _ _ _).bind fun _ _ equal => ?_
  rw [equal]
  refine (Secures.read trivial kvSize).bind fun buffer read result => ?_
  have moved : (files.opened inode).Moved read := by
    refine moved.trans ?_
    obtain ⟨-, rfl⟩ | ⟨found, position, bytes, opened, -, -, rfl⟩ := result
    · exact Files.Moved.refl _
    · exact Files.moved_of_inode (by rw [Files.inodes, opened]; rfl) _
  refine Secures.ite (fun _ => finish _ moved fun far => absurd far (by decide)) fun whole => ?_
  refine (Secures.touch _ _ _).bind fun _ _ equal => ?_
  rw [equal]
  refine finish _ moved fun _ => ?_
  have whole := not_not.mp whole
  obtain ⟨rfl, -⟩ | ⟨found, position, behind, opened, part, rfl, -⟩ := result
  · -- −1 as a `size_t` brings the offset seven bytes on
    have kvSize_eq : 2 ^ 64 - 1 = kvSize := whole
    have wraps : sizeT ((number : Int) + 8 + kvSize) = number + 7 := by
      rw [sizeT]
      omega
    refine ⟨number + 7, ?_, by omega⟩
    dsimp only
    rw [wraps, Int.bmod_eq_of_le_mul_two (by omega) (by omega)]
  · rw [Files.descriptor_self] at opened
    obtain ⟨rfl, rfl⟩ := OpenFile.mk.inj (Option.some.inj opened)
    have length : behind.length = kvSize := whole
    have inside := part.length_le
    rw [Files.withDescriptor_toDisk, contents, readAt, List.length_take, List.length_drop] at inside
    have cast : (number : Int) + 8 + kvSize = ((number + 8 + kvSize : Nat) : Int) := by omega
    refine ⟨number + 8 + kvSize, ?_, by omega⟩
    dsimp only
    rw [cast, sizeT_of_lt (by omega), Int.bmod_eq_of_le_mul_two (by omega) (by omega)]

/-- `ReplaySegment` changes no file and comes to no offset behind the end of the segment. -/
theorem replaySegment_secures (env : Environment) (store : LogSegmentStore) (sound : files.Sound)
    {segmentId : SegmentId} (named : files.names (.segment segmentId) = some inode)
    (short : (files.contents inode).length < 2 ^ 31) (fuel : Nat) {number : Nat}
    (inside : number ≤ (files.contents inode).length) :
    Secures (replaySegment env store segmentId fuel number) files (fun _ => True)
      fun result after => files.Unchanged after ∧ (result.1 = true → ∃ last : Nat, result.2 = last ∧
        last ≤ (files.contents inode).length) := by
  induction fuel generalizing files number with
  | zero => exact Secures.stop trivial
  | succ fuel ih =>
    rw [replaySegment]
    refine (replayLog_secures env store sound named short number).bind ?_
    rintro ⟨offset, found⟩ middle ⟨same, near⟩
    dsimp only at near ⊢
    refine Secures.ite (fun _ => Secures.pure ⟨same, nofun⟩) fun passed => ?_
    refine Secures.ite (fun _ => Secures.pure ⟨same, fun _ => ⟨number, rfl, inside⟩⟩) fun goes => ?_
    obtain ⟨next, rfl, inside'⟩ := near (by omega)
    have contents : middle.contents = files.contents := congrArg Disk.contents same.disk
    have named' : middle.names (.segment segmentId) = some inode := by
      rw [same.disk]
      exact named
    rw [← contents] at short inside'
    have rest := ih (same.sound sound) named' short inside'
    rw [contents] at rest
    exact rest.imp fun _ after result => ⟨same.trans result.1, result.2⟩

end LogSegmentStore

end Paxosme
