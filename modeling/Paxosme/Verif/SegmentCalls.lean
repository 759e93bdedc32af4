import Paxosme.Core.SegmentStore

/-!
# What the functions of the segment store do

Each function of `LogSegmentStore` is followed through its system calls, all of which go through:
what it returns, what it leaves on the disk and which files it leaves open. The functions that
change the disk also list the disk before each of their calls.
-/

namespace Paxosme

open Posix Bytes Framing

variable {env : Environment} {store : LogSegmentStore} {files : Files FileName}

/-- The metadata file after the number of a segment and bytes of a checksum have been written
over the start of its old contents. -/
def metadataOf (old : List UInt8) (segmentId : SegmentId) (checksum : List UInt8) : List UInt8 :=
  idBytes segmentId ++ (checksum ++ old.drop (4 + checksum.length))

/-- The eight bytes of the checksum of a `SEGMENT_ID`. -/
def checksumBytes (env : Environment) (segmentId : SegmentId) : List UInt8 :=
  littleEndian 8 (env.crc32 (idBytes segmentId)).toNat

theorem writeAt_id (old : List UInt8) (segmentId : SegmentId) :
    writeAt old 0 (idBytes segmentId) = metadataOf old segmentId [] := by
  rw [writeAt_zero, length_idBytes]
  rfl

theorem writeAt_checksum (old : List UInt8) (segmentId : SegmentId) (checksum : List UInt8) :
    writeAt (metadataOf old segmentId []) 4 checksum = metadataOf old segmentId checksum := by
  have head : (idBytes segmentId).length = 4 := length_idBytes segmentId
  rw [metadataOf, ← head, writeAt_append, metadataOf, head]
  simp [List.drop_drop]

/-- The segment that the bytes of a metadata file name when `Init` reads them: no bytes name the
first one, and eight bytes behind the number are a checksum that has to match. -/
def decodeMetadata (env : Environment) (bytes : List UInt8) : Option SegmentId :=
  if bytes ≠ [] ∧ bytes.length < 4 then none
  else
    let segmentId := if bytes = [] then 0 else ofIdBytes (bytes.take 4)
    if 12 ≤ bytes.length ∧
        (env.crc32 (idBytes segmentId)).toNat ≠ ofLittleEndian ((bytes.drop 4).take 4) then none
    else some segmentId

/-- A metadata file names the segment written to it when it holds no checksum or a right one. -/
theorem decodeMetadata_metadataOf (old : List UInt8) (segmentId : SegmentId)
    (checksum : List UInt8) :
    decodeMetadata env (metadataOf old segmentId checksum) =
      if 12 ≤ (metadataOf old segmentId checksum).length ∧ (env.crc32 (idBytes segmentId)).toNat ≠
          ofLittleEndian ((checksum ++ old.drop (4 + checksum.length)).take 4) then none
      else some segmentId := by
  have head : (metadataOf old segmentId checksum).take 4 = idBytes segmentId :=
    List.take_left' (length_idBytes segmentId)
  have tail : (metadataOf old segmentId checksum).drop 4 =
      checksum ++ old.drop (4 + checksum.length) :=
    List.drop_left' (length_idBytes segmentId)
  have filled : metadataOf old segmentId checksum ≠ [] := fun empty => by
    rw [empty] at head
    have := congrArg List.length head
    simp at this
  have long : ¬ (metadataOf old segmentId checksum).length < 4 := by
    rw [metadataOf, List.length_append, length_idBytes]
    omega
  simp only [decodeMetadata, head, tail, if_neg filled, ofIdBytes_idBytes]
  rw [if_neg (by simp [long])]

/-- The first four bytes of a checksum are the checksum. -/
theorem ofLittleEndian_checksumBytes (segmentId : SegmentId) (rest : List UInt8) :
    ofLittleEndian ((checksumBytes env segmentId ++ rest).take 4) =
      (env.crc32 (idBytes segmentId)).toNat := by
  have small : (env.crc32 (idBytes segmentId)).toNat < 256 ^ 4 :=
    (env.crc32 (idBytes segmentId)).toNat_lt
  rw [List.take_append_of_le_length (by simp [checksumBytes]), checksumBytes,
    take_littleEndian 4 4, ofLittleEndian_littleEndian_of_lt small]

/-- A metadata file names the segment whose number and checksum are written to it. -/
theorem decodeMetadata_updated (old : List UInt8) (segmentId : SegmentId) :
    decodeMetadata env (metadataOf old segmentId (checksumBytes env segmentId)) =
      some segmentId := by
  rw [decodeMetadata_metadataOf, ofLittleEndian_checksumBytes, if_neg (by simp)]

namespace LogSegmentStore

/-- `PaddingIfNewSegment` on a file that has bytes. -/
theorem paddingIfNewSegment_old {inode : Nat}
    (opened : files.inodes store.curSegmentFd = some inode)
    (filled : files.contents inode ≠ []) (small : (files.contents inode).length < 2 ^ 64) :
    Achieves (paddingIfNewSegment store) files [files.toDisk]
      (0, { store with curSegmentFileSize := (files.contents inode).length }) files.Moved := by
  obtain ⟨position, here⟩ := Files.descriptor_of_inode opened
  have length : 0 < (files.contents inode).length := List.length_pos_iff.mpr filled
  refine (Performs.lseek_finish here).step ?_
  rw [if_neg (by omega), if_pos (by omega), sizeT_of_lt small]
  exact Achieves.pure _ (Files.moved_of_inode opened _)

/-- `PaddingIfNewSegment` on an empty file, which is filled with zeros. -/
theorem paddingIfNewSegment_new {inode : Nat}
    (opened : files.inodes store.curSegmentFd = some inode) (empty : files.contents inode = [])
    (positive : 0 < store.segmentMaxSize) (small : store.segmentMaxSize < 2 ^ 63) :
    Achieves (paddingIfNewSegment store) files
      [files.toDisk, files.toDisk, files.toDisk, files.toDisk.withContents inode
        (List.replicate store.segmentMaxSize 0)]
      (1, { store with curSegmentFileSize := store.segmentMaxSize })
      (files.withContents inode (List.replicate store.segmentMaxSize 0)).Moved := by
  obtain ⟨position, here⟩ := Files.descriptor_of_inode opened
  have last : sizeT (store.segmentMaxSize - 1) = store.segmentMaxSize - 1 := by
    have cast : (store.segmentMaxSize : Int) - 1 = ((store.segmentMaxSize - 1 : Nat) : Int) := by
      omega
    rw [cast, sizeT_of_lt (by omega)]
  have zeros := writeAt_last positive
  refine (Performs.lseek_finish here).step ?_
  rw [empty, if_neg (by simp), if_neg (by simp), last]
  dsimp only
  rw [offT_of_lt (by omega)]
  refine (Performs.lseek Files.descriptor_self _).step ?_
  rw [sizeT_of_lt (by omega), if_neg (by simp)]
  refine (Performs.write Files.descriptor_self _).step ?_
  rw [if_neg (by simp)]
  simp only [Files.withDescriptor_toDisk, empty, zeros]
  refine (Performs.lseek Files.descriptor_self 0).step ?_
  rw [if_neg (by simp)]
  refine Achieves.pure _ ⟨rfl, ?_, rfl⟩
  simp [Files.update_inodes opened]

/-- `UpdateMetadata`: the number of the next segment, then its checksum. -/
theorem updateMetadata_performs {inode : Nat} (opened : files.inodes store.metaFd = some inode) :
    Achieves (updateMetadata env store) files
      [files.toDisk, files.toDisk,
        files.toDisk.withContents inode
          (metadataOf (files.contents inode) (store.curSegmentId + 1) []),
        files.toDisk.withContents inode (metadataOf (files.contents inode) (store.curSegmentId + 1)
          (checksumBytes env (store.curSegmentId + 1)))]
      true (files.withContents inode (metadataOf (files.contents inode) (store.curSegmentId + 1)
        (checksumBytes env (store.curSegmentId + 1)))).Moved := by
  obtain ⟨position, here⟩ := Files.descriptor_of_inode opened
  refine (Performs.lseek here 0).step ?_
  rw [if_neg (by simp)]
  refine (Performs.write Files.descriptor_self _).step ?_
  rw [if_neg (by simp)]
  simp only [Files.withDescriptor_toDisk, writeAt_id, length_idBytes]
  refine (Performs.write Files.descriptor_self _).step ?_
  rw [if_neg (by simp)]
  simp only [Files.withDescriptor_toDisk, Files.withContents_toDisk, Disk.withContents_same,
    Nat.zero_add, writeAt_checksum]
  refine (Performs.fsync Files.descriptor_self).final ?_ ⟨?_, ?_, rfl⟩
  · simp [checksumBytes]
  · simp [checksumBytes]
  · simp [Files.update_inodes opened]

/-- The files once `NewSegment` has started the next segment. -/
def startedSegment (env : Environment) (store : LogSegmentStore) (files : Files FileName)
    (inode : Nat) : Files FileName :=
  let updated := files.withContents inode (metadataOf (files.contents inode)
    (store.curSegmentId + 1) (checksumBytes env (store.curSegmentId + 1)))
  ((updated.created (.segment (store.curSegmentId + 1))).opened
    files.nextInode).withContents files.nextInode (List.replicate store.segmentMaxSize 0)

/-- `NewSegment`. -/
theorem newSegment_performs {inode : Nat}
    (opened : files.inodes store.metaFd = some inode)
    (missing : files.names (.segment (store.curSegmentId + 1)) = none)
    (positive : 0 < store.segmentMaxSize) (small : store.segmentMaxSize < 2 ^ 63) :
    let named := files.toDisk.withContents inode
      (metadataOf (files.contents inode) (store.curSegmentId + 1) [])
    let updated := files.toDisk.withContents inode (metadataOf (files.contents inode)
      (store.curSegmentId + 1) (checksumBytes env (store.curSegmentId + 1)))
    let created := updated.created (.segment (store.curSegmentId + 1))
    Achieves (newSegment env store) files
      [files.toDisk, files.toDisk, named, updated, updated, updated, created, created, created,
        (startedSegment env store files inode).toDisk]
      (true, { store with
        curSegmentId := store.curSegmentId + 1
        curSegmentFd := files.nextDescriptor
        curSegmentFileSize := store.segmentMaxSize
        curSegmentOffset := 0 })
      (startedSegment env store files inode).Moved := by
  intro named updated created
  refine (updateMetadata_performs opened).bind fun middle moved => ?_
  have disk : middle.toDisk = updated := moved.disk
  have missing' : middle.names (.segment (store.curSegmentId + 1)) = none := by
    rw [disk]; exact missing
  refine (Performs.access _).stepOn disk ?_
  rw [missing', if_neg (by simp)]
  refine (Performs.openFile_missing missing').stepOn disk ?_
  have next : middle.nextDescriptor = files.nextDescriptor := moved.next
  have inode' : middle.nextInode = files.nextInode := by rw [disk]; rfl
  have empty : (updated.created (.segment (store.curSegmentId + 1))).contents
      files.nextInode = [] :=
    Disk.created_contents_self ..
  rw [if_neg (natCast_ne_failed _), next, inode']
  have pad : Achieves (paddingIfNewSegment { store with
      curSegmentId := store.curSegmentId + 1, curSegmentFd := files.nextDescriptor })
      ((middle.created (.segment (store.curSegmentId + 1))).opened files.nextInode) _ _ _ :=
    paddingIfNewSegment_new (by simp [next]; rfl) (by simp [disk, empty]) positive small
  simp only [Files.opened_toDisk, Files.created_toDisk, disk] at pad
  refine pad.bind fun after moved' => ?_
  dsimp only
  rw [if_neg (by simp)]
  refine Achieves.pure _ (Files.Moved.trans ?_ moved')
  exact ((moved.created _).opened _).withContents _ _

/-- `NewSegment` fails when the segment is there already. -/
theorem newSegment_exists {inode : Nat}
    (opened : files.inodes store.metaFd = some inode)
    (there : (files.names (.segment (store.curSegmentId + 1))).isSome) :
    Completes (newSegment env store) files
      (false, { store with curSegmentId := store.curSegmentId + 1 })
      (files.withContents inode (metadataOf (files.contents inode) (store.curSegmentId + 1)
        (checksumBytes env (store.curSegmentId + 1)))).Moved := by
  obtain ⟨middle, performs, moved⟩ := updateMetadata_performs opened
  have there' : (middle.names (.segment (store.curSegmentId + 1))).isSome := by
    rw [moved.disk]
    exact there
  refine performs.andThen ?_
  rw [if_neg (by simp)]
  refine (Performs.access _).andThen ?_
  rw [if_pos there']
  exact Completes.pure _ moved

/-- `Append` finds room in the current segment. -/
theorem makeRoom_fits {bufferLength : Nat}
    (fits : sizeT (store.curSegmentOffset + bufferLength) ≤ store.curSegmentFileSize) :
    Achieves (makeRoom env store bufferLength) files [] (true, store) files.Moved := by
  rw [makeRoom, if_neg (Nat.not_lt.mpr fits)]
  exact Achieves.pure _ (Files.Moved.refl files)

/-- The files once `Append` has cut the current segment behind its last record and closed it. -/
def cutSegment (store : LogSegmentStore) (files : Files FileName) (inode offset : Nat) :
    Files FileName :=
  (files.withContents inode (resize (files.contents inode) offset)).withDescriptor
    store.curSegmentFd none

/-- `Append` starts the next segment. -/
theorem makeRoom_rolls {bufferLength inode metaInode offset : Nat}
    (position : store.curSegmentOffset = offset)
    (full : store.curSegmentFileSize < sizeT (store.curSegmentOffset + bufferLength))
    (opened : files.inodes store.curSegmentFd = some inode)
    (metaOpened : files.inodes store.metaFd = some metaInode) (apart : metaInode ≠ inode)
    (missing : files.names (.segment (store.curSegmentId + 1)) = none)
    (positive : 0 < store.segmentMaxSize) (small : store.segmentMaxSize < 2 ^ 63) :
    let cut := files.toDisk.withContents inode (resize (files.contents inode) offset)
    let named := cut.withContents metaInode
      (metadataOf (files.contents metaInode) (store.curSegmentId + 1) [])
    let updated := cut.withContents metaInode (metadataOf (files.contents metaInode)
      (store.curSegmentId + 1) (checksumBytes env (store.curSegmentId + 1)))
    let created := updated.created (.segment (store.curSegmentId + 1))
    Achieves (makeRoom env store bufferLength) files
      [files.toDisk, cut, cut, cut, named, updated, updated, updated, created, created, created,
        (startedSegment env store (cutSegment store files inode offset) metaInode).toDisk]
      (true, { store with
        curSegmentId := store.curSegmentId + 1
        curSegmentFd := files.nextDescriptor
        curSegmentFileSize := store.segmentMaxSize
        curSegmentOffset := 0 })
      (startedSegment env store (cutSegment store files inode offset) metaInode).Moved := by
  intro cut named updated created
  obtain ⟨place, here⟩ := Files.descriptor_of_inode opened
  have other : store.metaFd ≠ store.curSegmentFd := fun same => by
    rw [same, opened] at metaOpened
    exact apart (Option.some.inj metaOpened).symm
  have metaOpened' : (cutSegment store files inode offset).inodes store.metaFd =
      some metaInode := by
    simp [cutSegment, other, metaOpened]
  have start : Achieves (newSegment env store) (cutSegment store files inode offset) _ _ _ :=
    newSegment_performs metaOpened' missing positive small
  have old : (cutSegment store files inode offset).contents metaInode = files.contents metaInode :=
    Disk.withContents_other _ apart _
  simp only [old] at start
  rw [makeRoom, if_pos full, position]
  refine (Performs.ftruncate here offset).step ?_
  rw [if_neg (by simp)]
  refine (Performs.close _).step ?_
  refine start.bind fun after moved => ?_
  dsimp only
  rw [if_neg (by simp)]
  exact Achieves.pure _ moved

/-- `Append` fails when the next segment is there already. -/
theorem makeRoom_exists {bufferLength inode metaInode offset : Nat}
    (position : store.curSegmentOffset = offset)
    (full : store.curSegmentFileSize < sizeT (store.curSegmentOffset + bufferLength))
    (opened : files.inodes store.curSegmentFd = some inode)
    (metaOpened : files.inodes store.metaFd = some metaInode) (apart : metaInode ≠ inode)
    (there : (files.names (.segment (store.curSegmentId + 1))).isSome) :
    Completes (makeRoom env store bufferLength) files
      (false, { store with curSegmentId := store.curSegmentId + 1 })
      ((cutSegment store files inode offset).withContents metaInode
        (metadataOf (files.contents metaInode) (store.curSegmentId + 1)
          (checksumBytes env (store.curSegmentId + 1)))).Moved := by
  obtain ⟨place, here⟩ := Files.descriptor_of_inode opened
  have other : store.metaFd ≠ store.curSegmentFd := fun same => by
    rw [same, opened] at metaOpened
    exact apart (Option.some.inj metaOpened).symm
  have metaOpened' : (cutSegment store files inode offset).inodes store.metaFd =
      some metaInode := by
    simp [cutSegment, other, metaOpened]
  have start : Completes (newSegment env store) (cutSegment store files inode offset) _ _ :=
    newSegment_exists metaOpened' there
  have old : (cutSegment store files inode offset).contents metaInode = files.contents metaInode :=
    Disk.withContents_other _ apart _
  rw [old] at start
  have cut := Performs.ftruncate here offset
  rw [← position] at cut
  rw [makeRoom, if_pos full]
  refine cut.andThen ?_
  rw [if_neg (by simp)]
  refine (Performs.close _).andThen ?_
  refine start.bind fun after moved => ?_
  dsimp only
  rw [if_pos (by simp)]
  exact Completes.pure _ moved

/-- `Append` writes the record behind the last one. -/
theorem writeRecord_performs {inode offset : Nat} {key written value : List UInt8}
    (position : store.curSegmentOffset = offset)
    (opened : files.inodes store.curSegmentFd = some inode)
    (copies : env.copied (key ++ [0]) store.indexKeyLength = written) :
    let buffer := frame 8 (written ++ value)
    Achieves (writeRecord env store key value) files [files.toDisk, files.toDisk]
      (some (toSegmentIndex store.curSegmentId offset (env.crc32 (written ++ value)).toNat),
        { store with curSegmentOffset := ((offset + buffer.length : Nat) : Int) })
      (files.withContents inode (writeAt (files.contents inode) offset buffer)).Moved := by
  intro buffer
  obtain ⟨place, here⟩ := Files.descriptor_of_inode opened
  have length : written.length = store.indexKeyLength := by
    rw [← copies, Environment.length_copied]
  have bytes : littleEndian 8 (store.indexKeyLength + value.length) ++ (written ++ value) =
      buffer := by
    simp [buffer, frame, length]
  refine (Performs.touch _ _).skip ?_
  dsimp only
  rw [copies, bytes, position]
  refine (Performs.lseek here offset).step ?_
  rw [if_neg (by simp)]
  refine (Performs.write Files.descriptor_self _).step ?_
  rw [if_neg (by simp)]
  refine Achieves.pure _ ⟨rfl, ?_, rfl⟩
  simp [Files.update_inodes opened]

/-- `Append` fails once the segment in use is closed. -/
theorem append_closed (closed : files.inodes store.curSegmentFd = none)
    (inside : 0 ≤ store.curSegmentOffset) (key value : List UInt8) :
    Completes (append env store key value) files (none, store) files.Unchanged := by
  have same : files.Unchanged files := (Files.Moved.refl files).unchanged
  rw [append]
  dsimp only
  split
  · exact Completes.pure _ same
  · rw [makeRoom]
    split
    · refine Performs.andThen ((Performs.ftruncate_closed closed _).bind (Performs.pure _)) ?_
      exact Completes.pure _ same
    · refine (Performs.pure _).andThen ?_
      rw [if_neg (by simp), writeRecord]
      refine (Performs.touch _ _).andThen ?_
      refine (Performs.lseek_closed closed _).andThen ?_
      have apart : -1 ≠ store.curSegmentOffset := by omega
      rw [if_pos apart]
      exact Completes.pure _ same

/-! ## The functions that only read -/

/-- `ReplayLog` of a segment that does not exist. -/
theorem replayLog_missing {segmentId : SegmentId} (offset : Int)
    (missing : files.names (.segment segmentId) = none) :
    Completes (replayLog env store segmentId offset) files (-1, none) files.Unchanged := by
  refine (Performs.access _).andThen ?_
  rw [missing, if_pos (by simp)]
  exact Completes.pure _ (Files.Moved.refl files).unchanged

/-- `ReplayLog` where no record stands. -/
theorem replayLog_end (sound : files.Sound) {segmentId : SegmentId} {inode offset : Nat}
    (found : files.names (.segment segmentId) = some inode)
    (ends : Ends 8 ((files.contents inode).drop offset)) :
    Completes (replayLog env store segmentId offset) files (0, none) files.Unchanged := by
  refine (Performs.access _).andThen ?_
  rw [found, if_neg (by simp)]
  refine (Performs.openFile found true).andThen ?_
  rw [if_neg (natCast_not_neg _)]
  refine (Performs.lseek Files.opened_self offset).andThen ?_
  rw [if_neg (by omega)]
  refine (Performs.read (files.contents inode) Files.descriptor_self ?_ ?_).andThen ?_
  · rfl
  · decide
  by_cases short : readLen (some (readAt (files.contents inode) offset 8)) < 8
  · rw [if_pos short]
    exact sound.close_returns inode _ rfl (by simp) rfl
  have long : 8 ≤ ((files.contents inode).drop offset).length := by
    simpa [readLen, readAt] using short
  rw [if_neg short, Option.getD_some, readAt]
  dsimp only
  by_cases zero : ofLittleEndian (((files.contents inode).drop offset).take 8) = 0
  · rw [if_pos zero]
    exact sound.close_returns inode _ rfl (by simp) rfl
  rw [if_neg zero]
  refine (Performs.touch _ _).andThen ?_
  obtain ⟨stands, fails⟩ := (ends_iff _).mp ends
  have behind : (((files.contents inode).drop offset).drop 8).length <
      ofLittleEndian (((files.contents inode).drop offset).take 8) := by
    rcases stands with short' | zero' | behind
    · omega
    · exact absurd zero' zero
    · exact behind
  rcases Nat.lt_or_ge (ofLittleEndian (((files.contents inode).drop offset).take 8)) (2 ^ 63) with
    small | large
  · refine (Performs.read (files.contents inode) Files.descriptor_self ?_ small).andThen ?_
    · rfl
    rw [if_pos ?_]
    · exact sound.close_returns inode _ rfl (by simp) rfl
    · simp only [readLen, readAt, Option.map_some, Option.getD_some, List.length_take,
        List.length_drop] at behind ⊢
      omega
  · refine (Performs.read_large large).andThen ?_
    rw [if_pos ?_]
    · exact sound.close_returns inode _ rfl (by simp) rfl
    · rw [readLen, Option.map_none, Option.getD_none]
      omega

/-- `ReplayLog` of bytes that read as a record; the offset behind them is given as an `int`. -/
theorem replayLog_reads (sound : files.Sound) {segmentId : SegmentId} {inode offset : Nat}
    {body rest : List UInt8} (found : files.names (.segment segmentId) = some inode)
    (record : unframe 8 ((files.contents inode).drop offset) = some (body, rest))
    (small : offset + 8 + body.length < 2 ^ 63) :
    Completes (replayLog env store segmentId offset) files
      (Int.bmod ((offset + 8 + body.length : Nat) : Int) (2 ^ 32),
        some (env.copied body store.indexKeyLength,
          toSegmentIndex segmentId offset (env.crc32 body).toNat)) files.Unchanged := by
  obtain ⟨long, count, positive, parts⟩ := unframe_parts record
  have second : readAt (files.contents inode) (offset + 8) body.length = body := by
    rw [readAt, ← List.drop_drop, parts, List.take_left]
  have start : readLen (some (((files.contents inode).drop offset).take 8)) = 8 := by
    rw [readLen, Option.map_some, Option.getD_some, List.length_take]
    omega
  have next : sizeT ((offset : Int) + 8 + body.length) = offset + 8 + body.length := by
    have cast : (offset : Int) + 8 + body.length = ((offset + 8 + body.length : Nat) : Int) := by
      omega
    rw [cast, sizeT_of_lt (by omega)]
  refine (Performs.access _).andThen ?_
  rw [found, if_neg (by simp)]
  refine (Performs.openFile found true).andThen ?_
  rw [if_neg (natCast_not_neg _)]
  refine (Performs.lseek Files.opened_self offset).andThen ?_
  rw [if_neg (by omega)]
  refine (Performs.read (files.contents inode) Files.descriptor_self ?_ ?_).andThen ?_
  · rfl
  · decide
  rw [readAt, start, if_neg (by omega), Option.getD_some, count]
  dsimp only
  rw [if_neg positive]
  refine (Performs.touch _ _).andThen ?_
  refine (Performs.read (files.contents inode) Files.descriptor_self ?_ ?_).andThen ?_
  · rfl
  · omega
  have skipped : (((files.contents inode).drop offset).take 8).length = 8 := by
    rw [List.length_take]
    omega
  rw [skipped, second, readLen, Option.map_some, Option.getD_some, if_neg (by simp),
    Option.getD_some, env.copied_of_le le_rfl, List.take_length]
  refine (Performs.touch _ _).andThen ?_
  rw [next]
  exact sound.close_returns inode _ rfl (by simp) rfl

/-- `ReplayLog` where a record stands. -/
theorem replayLog_record (sound : files.Sound) {segmentId : SegmentId} {inode offset : Nat}
    {body rest : List UInt8} (found : files.names (.segment segmentId) = some inode)
    (record : unframe 8 ((files.contents inode).drop offset) = some (body, rest))
    (small : offset + 8 + body.length < 2 ^ 31) :
    Completes (replayLog env store segmentId offset) files
      (((offset + 8 + body.length : Nat) : Int), some (env.copied body store.indexKeyLength,
        toSegmentIndex segmentId offset (env.crc32 body).toNat)) files.Unchanged := by
  have reads : Completes (replayLog env store segmentId offset) files _ files.Unchanged :=
    replayLog_reads sound found record (by omega)
  rw [Int.bmod_eq_of_le_mul_two (by omega) (by omega)] at reads
  exact reads

/-- `Read` by the index of a record. -/
theorem read_record (sound : files.Sound) {segmentId : SegmentId} {inode offset : Nat}
    {key value rest : List UInt8} (found : files.names (.segment segmentId) = some inode)
    (record : (files.contents inode).drop offset = frame 8 (key ++ value) ++ rest)
    (length : key.length = store.indexKeyLength) (small : offset < 2 ^ 63)
    (fits : (key ++ value).length < 2 ^ 63) :
    Completes (read env store (toSegmentIndex segmentId offset (env.crc32 (key ++ value)).toNat))
      files (some (key, value)) files.Unchanged := by
  have checksum : (env.crc32 (key ++ value)).toNat < 2 ^ 64 := by
    have := (env.crc32 (key ++ value)).toNat_lt
    omega
  rw [List.length_append] at fits
  have start : readAt (files.contents inode) offset 8 = littleEndian 8 (key ++ value).length := by
    rw [readAt, record, frame, List.append_assoc]
    exact List.take_left' (length_littleEndian _ _)
  have behind : (files.contents inode).drop (offset + 8) = key ++ (value ++ rest) := by
    rw [← List.drop_drop, record, frame, List.append_assoc, List.append_assoc]
    exact List.drop_left' (length_littleEndian _ _)
  have second : readAt (files.contents inode) (offset + 8) key.length = key := by
    rw [readAt, behind, List.take_left]
  have third : readAt (files.contents inode) (offset + 8 + key.length) value.length = value := by
    rw [readAt, ← List.drop_drop, behind, List.drop_left, List.take_left]
  have count : ofLittleEndian (littleEndian 8 (key ++ value).length) = (key ++ value).length :=
    ofLittleEndian_littleEndian_of_lt (by rw [List.length_append]; omega)
  have valueLen : sizeT (((key ++ value).length : Int) - key.length) = value.length := by
    have cast : ((key ++ value).length : Int) - key.length = (value.length : Int) := by
      rw [List.length_append]
      omega
    rw [cast, sizeT_of_lt (by omega)]
  rw [read, parseSegmentIndex_toSegmentIndex segmentId small checksum]
  dsimp only
  refine (Performs.openFile found false).andThen ?_
  rw [if_neg (natCast_ne_failed _)]
  refine (Performs.lseek Files.opened_self offset).andThen ?_
  rw [if_neg (by simp)]
  refine (Performs.read (files.contents inode) Files.descriptor_self ?_ ?_).andThen ?_
  · rfl
  · decide
  rw [start, readLen, Option.map_some, Option.getD_some, length_littleEndian, if_neg (by simp),
    Option.getD_some, count, ← length]
  refine (Performs.touch _ _).andThen ?_
  refine (Performs.read (files.contents inode) Files.descriptor_self ?_ ?_).andThen ?_
  · rfl
  · omega
  rw [second]
  refine (Performs.touch _ _).andThen ?_
  rw [readLen, Option.map_some, Option.getD_some, if_neg (by simp), valueLen]
  refine (Performs.read (files.contents inode) Files.descriptor_self ?_ ?_).andThen ?_
  · rfl
  · omega
  rw [third]
  refine (Performs.touch _ _).andThen ?_
  rw [readLen, Option.map_some, Option.getD_some, if_neg (by simp), Option.getD_some,
    Option.getD_some, List.take_length, if_neg (by simp), List.take_left, List.drop_left]
  exact sound.close_returns inode _ rfl (by simp) rfl

/-- `RemoveAsync` of a record: a segment that ends behind it is to be cleaned. -/
theorem removeAsync_record (sound : files.Sound) {segmentId : SegmentId} {inode offset : Nat}
    {body rest : List UInt8} {checksum : Nat}
    (found : files.names (.segment segmentId) = some inode)
    (record : (files.contents inode).drop offset = frame 8 body ++ rest)
    (small : (files.contents inode).length < 2 ^ 63) (fits : checksum < 2 ^ 64) :
    Completes (removeAsync (toSegmentIndex segmentId offset checksum)) files
      (true, if rest = [] then [segmentId] else []) files.Unchanged := by
  have lengths := congrArg List.length record
  rw [List.length_drop, List.length_append, length_frame] at lengths
  have start : readAt (files.contents inode) offset 8 = littleEndian 8 body.length := by
    rw [readAt, record, frame, List.append_assoc]
    exact List.take_left' (length_littleEndian _ _)
  have count : ofLittleEndian (littleEndian 8 body.length) = body.length :=
    ofLittleEndian_littleEndian_of_lt (by omega)
  have next : offT (sizeT ((offset : Int) + 8 + body.length)) =
      ((offset + 8 + body.length : Nat) : Int) := by
    have cast : (offset : Int) + 8 + body.length = ((offset + 8 + body.length : Nat) : Int) := by
      omega
    rw [cast, sizeT_of_lt (by omega), offT_of_lt (by omega)]
  have finish : ((offset + 8 + body.length : Nat) : Int) = (files.contents inode).length ↔
      rest = [] := by
    rw [← List.length_eq_zero_iff]
    omega
  rw [removeAsync, parseSegmentIndex_toSegmentIndex segmentId (by omega) fits]
  dsimp only
  refine (Performs.openFile found true).andThen ?_
  rw [if_neg (natCast_ne_failed _)]
  refine (Performs.lseek Files.opened_self offset).andThen ?_
  rw [if_neg (by omega)]
  refine (Performs.read (files.contents inode) Files.descriptor_self ?_ ?_).andThen ?_
  · rfl
  · decide
  rw [start, readLen, Option.map_some, Option.getD_some, length_littleEndian, if_neg (by simp),
    Option.getD_some, count, next]
  refine (Performs.lseek_finish Files.descriptor_self).andThen ?_
  simp only [Files.withDescriptor_toDisk, Files.opened_toDisk, finish]
  exact sound.close_returns inode _ rfl (by simp) rfl

/-- `ReplaySegment` over records behind which no other stands. -/
theorem replaySegment_frames (sound : files.Sound) {segmentId : SegmentId} {inode offset : Nat}
    {bodies : List (List UInt8)} {tail : List UInt8}
    (found : files.names (.segment segmentId) = some inode)
    (records : (files.contents inode).drop offset = frames 8 bodies ++ tail)
    (framed : ∀ body ∈ bodies, Framed 8 body) (ends : Ends 8 tail)
    (small : offset + (frames 8 bodies).length < 2 ^ 31) {fuel : Nat}
    (enough : bodies.length < fuel) :
    Completes (replaySegment env store segmentId fuel offset) files
      (true, ((offset + (frames 8 bodies).length : Nat) : Int)) files.Unchanged := by
  induction bodies generalizing offset fuel files with
  | nil =>
    obtain ⟨fuel, rfl⟩ : ∃ rest, fuel = rest + 1 := ⟨fuel - 1, by omega⟩
    have stop : Ends 8 ((files.contents inode).drop offset) := by simpa [records] using ends
    refine (replayLog_end sound found stop).bind fun after same => ?_
    dsimp only
    rw [if_neg (by omega), if_pos rfl]
    exact Completes.pure _ same
  | cons body bodies ih =>
    obtain ⟨fuel, rfl⟩ : ∃ rest, fuel = rest + 1 := ⟨fuel - 1, by omega⟩
    rw [frames_cons, List.length_append, length_frame] at small
    have first : unframe 8 ((files.contents inode).drop offset) =
        some (body, frames 8 bodies ++ tail) := by
      rw [records, frames_cons, List.append_assoc]
      exact unframe_frame (framed body List.mem_cons_self) _
    refine (replayLog_record sound found first (by omega)).bind fun after same => ?_
    dsimp only
    rw [if_neg (by omega), if_neg (by omega)]
    have rest : (after.contents inode).drop (offset + 8 + body.length) = frames 8 bodies ++ tail := by
      have length : offset + 8 + body.length = offset + (frame 8 body).length := by
        rw [length_frame]
        omega
      rw [same.disk, length, ← List.drop_drop, records, frames_cons, List.append_assoc,
        List.drop_left]
    have later := ih (same.sound sound) (by rw [same.disk]; exact found) rest
      (fun other member => framed other (List.mem_cons_of_mem _ member)) (by omega)
      (show bodies.length < fuel by simpa using enough)
    have total : offset + 8 + body.length + (frames 8 bodies).length =
        offset + (frames 8 (body :: bodies)).length := by
      rw [frames_cons, List.length_append, length_frame]
      omega
    rw [← total]
    exact later.imp fun end_ same' => same.trans same'

/-- `Init` reads the metadata file. -/
theorem readMetadata_decode {metaFd : FD} {inode : Nat}
    (opened : files.descriptors metaFd = some ⟨inode, 0⟩) :
    Completes (readMetadata env metaFd) files (decodeMetadata env (files.contents inode))
      files.Moved := by
  generalize bytes_eq : files.contents inode = bytes
  have here : files.inodes metaFd = some inode := by rw [Files.inodes, opened]; rfl
  have moved : ∀ first second, files.Moved ((files.withDescriptor metaFd
      (some ⟨inode, first⟩)).withDescriptor metaFd (some ⟨inode, second⟩)) := fun first second =>
    ⟨rfl, by simp [Files.update_inodes here], rfl⟩
  refine (Performs.read bytes opened bytes_eq (show 4 < 2 ^ 63 by decide)).andThen ?_
  rcases Nat.lt_or_ge bytes.length 4 with short | long
  · by_cases empty : bytes = []
    · subst empty
      refine (Performs.read [] Files.descriptor_self bytes_eq (show 8 < 2 ^ 63 by decide)).andThen ?_
      refine (Performs.touch _ _).andThen ?_
      exact Completes.pure _ (moved _ _)
    · have length : 0 < bytes.length := List.length_pos_iff.mpr empty
      have number : readLen (some (readAt bytes 0 4)) = bytes.length := by
        simp only [readLen, readAt, List.drop_zero, Option.map_some, Option.getD_some,
          List.length_take]
        omega
      rw [number, if_pos (by omega), decodeMetadata, if_pos ⟨empty, short⟩]
      exact Completes.pure _ (Files.moved_of_inode here _)
  · have filled : bytes ≠ [] := fun empty => by simp [empty] at long
    have head : readAt bytes 0 4 = bytes.take 4 := rfl
    have number : (bytes.take 4).length = 4 := by
      rw [List.length_take]
      omega
    have whole : readLen (some (readAt bytes 4 8)) = 8 ↔ 12 ≤ bytes.length := by
      simp only [readLen, readAt, Option.map_some, Option.getD_some, List.length_take,
        List.length_drop]
      omega
    have low : (readAt bytes 4 8).take 4 = (bytes.drop 4).take 4 := by
      rw [readAt, List.take_take]
      rfl
    have decoded : decodeMetadata env bytes =
        if 12 ≤ bytes.length ∧ (env.crc32 (idBytes (ofIdBytes (bytes.take 4)))).toNat ≠
          ofLittleEndian ((bytes.drop 4).take 4) then none
        else some (ofIdBytes (bytes.take 4)) := by
      rw [decodeMetadata, if_neg (by omega)]
      simp only [if_neg filled]
    rw [head, readLen, Option.map_some, Option.getD_some, number, if_neg (by omega),
      if_neg (show ¬ (4 : Nat) = 0 by omega), decoded]
    refine (Performs.read bytes Files.descriptor_self bytes_eq (show 8 < 2 ^ 63 by decide)).andThen ?_
    refine (Performs.touch _ _).andThen ?_
    simp only [Nat.zero_add, whole, low, Option.getD_some]
    split
    · exact Completes.pure _ (moved _ _)
    · exact Completes.pure _ (moved _ _)

end LogSegmentStore

end Paxosme
