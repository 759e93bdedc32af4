import Paxosme.Lib.Mishaps
import Paxosme.Verif.ReadBack

/-!
# Records that have been acknowledged

When `Append` has returned an index, the bytes of the record stand where the index says, and no
later `Append` of the process touches them, whichever of its calls fail, however little its writes
move and wherever the process stops: writes and cuts of the segment in use start behind its last
record, a segment that is started is a new file, and once a segment could not be started the store
has no segment open and writes nothing any more.
-/

namespace Paxosme

open Posix Bytes Framing

/-- The bytes of a record stand where its index says. -/
def Placed.Held (placed : Placed) (disk : Disk FileName) : Prop :=
  ∃ bytes rest, disk.view (.segment (segmentId placed.number)) = some bytes ∧
    bytes.drop placed.offset = frame 8 placed.entry.body ++ rest

/-- The bytes of some records stand where their indexes say. -/
structure AllHeld (receipts : List Placed) (files : Files FileName) : Prop where
  sound : files.toDisk.Sound
  held : ∀ placed ∈ receipts, placed.Held files.toDisk

/-- A store with the records that it has acknowledged: they stand in segments whose numbers it has
used, later ones have no file, and the metadata file is none of them. -/
structure Archived (options : LogStorageOptions) (store : LogSegmentStore)
    (files : Files FileName) (number : Nat) (receipts : List Placed) : Prop where
  sound : files.Sound
  keyLength : store.indexKeyLength = options.indexKeyLength
  maxSize : store.segmentMaxSize = options.segmentMaxSize
  fileSize : store.curSegmentFileSize ≤ options.segmentMaxSize
  id : store.curSegmentId = segmentId number
  small : number < 2 ^ 32
  beyond : ∀ id, (∀ n ≤ number, id ≠ segmentId n) → files.names (.segment id) = none
  metaApart : ∀ inode, files.inodes store.metaFd = some inode →
    ∀ id, files.names (.segment id) ≠ some inode
  metaGiven : store.metaFd < (files.nextDescriptor : Int)
  keyed : ∀ placed ∈ receipts, placed.entry.key.length = options.indexKeyLength
  inside : ∀ placed ∈ receipts, placed.offset + placed.entry.size ≤ options.segmentMaxSize
  used : ∀ placed ∈ receipts, placed.number ≤ number
  held : ∀ placed ∈ receipts, placed.Held files.toDisk

/-- Besides, the next record is written behind those of the segment in use, if one is open. -/
structure Guarded (options : LogStorageOptions) (store : LogSegmentStore)
    (files : Files FileName) (number : Nat) (receipts : List Placed) : Prop
    extends Archived options store files number receipts where
  writing : ∀ inode, files.inodes store.curSegmentFd = some inode →
    files.names (.segment (segmentId number)) = some inode ∧
      ∃ offset : Nat, store.curSegmentOffset = offset ∧ offset ≤ options.segmentMaxSize ∧
        ∀ placed ∈ receipts, placed.number = number →
          placed.offset + placed.entry.size ≤ offset

/-- What a process asks of its store. -/
inductive StoreRequest where
  | append (entry : Entry)
  | read (index : SegmentIndex)
  deriving DecidableEq, Repr

/-- A request, with what becomes of the calls that the store makes for it and how many of them the
process makes before it stops. -/
structure Attempt where
  request : StoreRequest
  outcomes : List Outcome := []
  limit : Option Nat := none
  deriving DecidableEq, Repr

/-- The world in which a request is made. -/
def Attempt.world (attempt : Attempt) (files : Files FileName) : World FileName :=
  { files, outcomes := attempt.outcomes, limit := attempt.limit }

/-- A process whose calls may fail: its store as long as it runs, the files under it, and the
records for which `Append` returned an index. -/
structure Troubled where
  store : Option LogSegmentStore
  files : Files FileName
  issued : List (Entry × SegmentIndex)

namespace Troubled

variable (env : Environment)

/-- `Append`. -/
def append (process : Troubled) (store : LogSegmentStore) (entry : Entry) (attempt : Attempt) :
    Troubled :=
  match store.append env entry.key entry.value (attempt.world process.files) with
  | (some (result, store), world) => ⟨some store, world.files,
      process.issued ++ (result.map fun index => (entry, index)).toList⟩
  | (none, world) => ⟨none, world.files, process.issued⟩

/-- `Read`. -/
def read (process : Troubled) (store : LogSegmentStore) (index : SegmentIndex)
    (attempt : Attempt) : Troubled :=
  match store.read env index (attempt.world process.files) with
  | (some _, world) => ⟨some store, world.files, process.issued⟩
  | (none, world) => ⟨none, world.files, process.issued⟩

/-- One request; a process that has stopped makes none. -/
def step (process : Troubled) (attempt : Attempt) : Troubled :=
  match process.store, attempt.request with
  | none, _ => process
  | some store, .append entry => process.append env store entry attempt
  | some store, .read index => process.read env store index attempt

/-- Some requests to the store of a session. -/
def after (session : Session) (attempts : List Attempt) : Troubled :=
  attempts.foldl (step env) ⟨some session.store, session.files, session.issued⟩

end Troubled

variable {env : Environment} {options : LogStorageOptions} {store : LogSegmentStore}
  {files after : Files FileName} {number inode : Nat} {receipts : List Placed}

namespace Archived

theorem allHeld (archived : Archived options store files number receipts) :
    AllHeld receipts files :=
  ⟨archived.sound.toSound, archived.held⟩

/-- The files may stay as they are. -/
theorem unchanged (archived : Archived options store files number receipts)
    (same : files.Unchanged after) : Archived options store after number receipts where
  sound := same.sound archived.sound
  keyLength := archived.keyLength
  maxSize := archived.maxSize
  fileSize := archived.fileSize
  id := archived.id
  small := archived.small
  beyond := by rw [same.disk]; exact archived.beyond
  metaApart := by rw [same.disk, same.open_]; exact archived.metaApart
  metaGiven := lt_of_lt_of_le archived.metaGiven (Int.ofNat_le.mpr same.next)
  keyed := archived.keyed
  inside := archived.inside
  used := archived.used
  held := by rw [same.disk]; exact archived.held

/-- The segment in use may have other bytes behind a position that all its records stand before. -/
theorem written (archived : Archived options store files number receipts)
    (named : files.names (.segment (segmentId number)) = some inode) {position : Nat}
    {bytes : List UInt8} (kept : (files.contents inode).take position <+: bytes)
    (before : ∀ placed ∈ receipts, placed.number = number →
      placed.offset + placed.entry.size ≤ position) :
    Archived options store (files.withContents inode bytes) number receipts where
  sound := archived.sound.withContents inode bytes
  keyLength := archived.keyLength
  maxSize := archived.maxSize
  fileSize := archived.fileSize
  id := archived.id
  small := archived.small
  beyond := archived.beyond
  metaApart := archived.metaApart
  metaGiven := archived.metaGiven
  keyed := archived.keyed
  inside := archived.inside
  used := archived.used
  held placed member := by
    obtain ⟨old, rest, seen, stands⟩ := archived.held placed member
    by_cases here : placed.number = number
    · rw [here, Disk.view_of_name named] at seen
      obtain rfl := Option.some.inj seen
      have limit := before placed member here
      rw [← length_frame_body] at limit
      obtain ⟨rest', stands'⟩ := drop_of_take_prefix kept stands limit
      have view : (files.withContents inode bytes).view (.segment (segmentId number)) =
          some bytes := by
        rw [Files.withContents_toDisk, archived.sound.view_withContents named,
          Function.update_self]
      exact ⟨bytes, rest', by rw [here]; exact view, stands'⟩
    · have apart : files.names (.segment (segmentId placed.number)) ≠ some inode := fun same => by
        have equal := archived.sound.single _ _ _ same named
        have used := archived.used placed member
        have small := archived.small
        exact here (segmentId_inj (by omega) small (FileName.segment.inj equal))
      refine ⟨old, rest, ?_, stands⟩
      rw [Files.withContents_toDisk, Disk.view_withContents_of_ne apart]
      exact seen

/-- A file that is no segment may have other bytes. -/
theorem elsewhere (archived : Archived options store files number receipts)
    (apart : ∀ id, files.names (.segment id) ≠ some inode) (bytes : List UInt8) :
    Archived options store (files.withContents inode bytes) number receipts where
  sound := archived.sound.withContents inode bytes
  keyLength := archived.keyLength
  maxSize := archived.maxSize
  fileSize := archived.fileSize
  id := archived.id
  small := archived.small
  beyond := archived.beyond
  metaApart := archived.metaApart
  metaGiven := archived.metaGiven
  keyed := archived.keyed
  inside := archived.inside
  used := archived.used
  held placed member := by
    obtain ⟨old, rest, seen, stands⟩ := archived.held placed member
    refine ⟨old, rest, ?_, stands⟩
    rw [Files.withContents_toDisk, Disk.view_withContents_of_ne (apart _)]
    exact seen

/-- A descriptor may be closed. -/
theorem closed (archived : Archived options store files number receipts) (fd : FD) :
    Archived options store (files.withDescriptor fd none) number receipts where
  sound := archived.sound.closed fd
  keyLength := archived.keyLength
  maxSize := archived.maxSize
  fileSize := archived.fileSize
  id := archived.id
  small := archived.small
  beyond := archived.beyond
  metaApart other opened := by
    rw [Files.withDescriptor_inodes] at opened
    by_cases same : store.metaFd = fd
    · rw [same, Function.update_self] at opened
      cases opened
    · rw [Function.update_of_ne same] at opened
      exact archived.metaApart other opened
  metaGiven := archived.metaGiven
  keyed := archived.keyed
  inside := archived.inside
  used := archived.used
  held := archived.held

/-- The next number may be used. -/
theorem next (archived : Archived options store files number receipts)
    (more : number + 1 < 2 ^ 32) :
    Archived options { store with curSegmentId := store.curSegmentId + 1 } files (number + 1)
      receipts where
  sound := archived.sound
  keyLength := archived.keyLength
  maxSize := archived.maxSize
  fileSize := archived.fileSize
  id := by rw [segmentId_succ, archived.id]
  small := more
  beyond id apart := archived.beyond id fun n le => apart n (Nat.le_succ_of_le le)
  metaApart := archived.metaApart
  metaGiven := archived.metaGiven
  keyed := archived.keyed
  inside := archived.inside
  used placed member := Nat.le_succ_of_le (archived.used placed member)
  held := archived.held

/-- The file of a segment that has no record may be created. -/
theorem created (archived : Archived options store files number receipts)
    (free : files.names (.segment (segmentId number)) = none)
    (unused : ∀ placed ∈ receipts, placed.number ≠ number) (fd : FD) :
    Archived options { store with curSegmentFd := fd }
      ((files.created (.segment (segmentId number))).opened files.nextInode) number receipts := by
  have opened := archived.sound.openedAs_missing free
  refine ⟨opened.sound, archived.keyLength, archived.maxSize, archived.fileSize, archived.id,
    archived.small, ?beyond, ?metaApart, ?metaGiven, archived.keyed, archived.inside,
    archived.used, ?held⟩
  case beyond =>
    intro id apart
    have other : FileName.segment id ≠ .segment (segmentId number) := fun same =>
      apart number le_rfl (FileName.segment.inj same)
    rw [opened.names, Function.update_of_ne other]
    exact archived.beyond id apart
  case metaApart =>
    intro inode found id
    have given : store.metaFd ≠ files.nextDescriptor := ne_of_lt archived.metaGiven
    rw [opened.open_, Function.update_of_ne given] at found
    rw [opened.names]
    by_cases same : FileName.segment id = .segment (segmentId number)
    · rw [same, Function.update_self]
      have below := archived.sound.opens _ _ found
      exact fun equal => Nat.ne_of_gt below (Option.some.inj equal)
    · rw [Function.update_of_ne same]
      exact archived.metaApart inode found id
  case metaGiven =>
    rw [opened.next]
    exact lt_of_lt_of_le archived.metaGiven (Int.ofNat_le.mpr (Nat.le_succ _))
  case held =>
    intro placed member
    obtain ⟨bytes, rest, seen, stands⟩ := archived.held placed member
    have other : FileName.segment (segmentId placed.number) ≠ .segment (segmentId number) :=
      fun same => by
        have used := archived.used placed member
        have small := archived.small
        exact unused placed member (segmentId_inj (by omega) small (FileName.segment.inj same))
    refine ⟨bytes, rest, ?_, stands⟩
    rw [opened.view, Function.update_of_ne other]
    exact seen

/-- A store without an open segment writes nothing. -/
theorem guarded (archived : Archived options store files number receipts)
    (shut : files.inodes store.curSegmentFd = none) :
    Guarded options store files number receipts where
  toArchived := archived
  writing inode opened := by
    rw [shut] at opened
    cases opened

end Archived

namespace Guarded

/-- The files may stay as they are. -/
theorem unchanged (guarded : Guarded options store files number receipts)
    (same : files.Unchanged after) : Guarded options store after number receipts where
  toArchived := guarded.toArchived.unchanged same
  writing := by rw [same.disk, same.open_]; exact guarded.writing

/-- A record that stands behind the others is acknowledged and the offset moved behind it. -/
theorem acknowledge (guarded : Guarded options store files number receipts) {entry : Entry}
    {position : Nat} {bytes rest : List UInt8}
    (keyed : entry.key.length = options.indexKeyLength)
    (fits : position + entry.size ≤ options.segmentMaxSize)
    (view : files.view (.segment (segmentId number)) = some bytes)
    (stands : bytes.drop position = frame 8 entry.body ++ rest)
    (offset : store.curSegmentOffset = position) :
    Guarded options
      { store with
        curSegmentOffset := store.curSegmentOffset + ((frame 8 entry.body).length : Nat) }
      files number (receipts ++ [⟨number, position, entry⟩]) := by
  have both {holds : Placed → Prop} (old : ∀ placed ∈ receipts, holds placed)
      (new : holds ⟨number, position, entry⟩) :
      ∀ placed ∈ receipts ++ [⟨number, position, entry⟩], holds placed := by
    intro placed member
    rcases List.mem_append.mp member with before | last
    · exact old placed before
    · rw [List.mem_singleton.mp last]
      exact new
  refine ⟨{ guarded.toArchived with
    held := both guarded.held ⟨bytes, rest, view, stands⟩
    keyed := both guarded.keyed keyed
    inside := both guarded.inside fits
    used := both guarded.used le_rfl }, ?_⟩
  intro inode opened
  obtain ⟨named, before, same, bound, earlier⟩ := guarded.writing inode opened
  obtain rfl : position = before := Int.ofNat_inj.mp (offset.symm.trans same)
  refine ⟨named, position + entry.size, ?_, fits,
    both (fun placed member here => ?_) fun _ => le_rfl⟩
  · rw [offset, length_frame_body]
    push_cast
    rfl
  · have limit := earlier placed member here
    omega

end Guarded

namespace LogSegmentStore

/-- A write to the metadata file. -/
theorem archived_wrote (archived : Archived options store files number receipts)
    {bytes : List UInt8} {result : Option Nat}
    (wrote : Secures.Wrote files store.metaFd bytes result after) :
    Archived options store after number receipts ∧ after.inodes = files.inodes := by
  obtain ⟨-, rfl⟩ | ⟨inode, position, written, opened, -, -, moved⟩ := wrote
  · exact ⟨archived, rfl⟩
  · have open_ : files.inodes store.metaFd = some inode := by rw [Files.inodes, opened]; rfl
    have apart := archived.metaApart inode open_
    exact ⟨(archived.elsewhere apart _).unchanged moved.unchanged, moved.open_⟩

/-- `UpdateMetadata` writes the metadata file alone. -/
theorem updateMetadata_secures (env : Environment)
    (archived : Archived options store files number receipts) :
    Secures (updateMetadata env store) files (AllHeld receipts) fun _ after =>
      Archived options store after number receipts ∧ after.inodes = files.inodes := by
  refine (Secures.lseek_start archived.allHeld 0).bind ?_
  rintro pos placed ⟨moved, _⟩
  have there := archived.unchanged moved.unchanged
  refine Secures.ite (fun _ => Secures.pure ⟨there, moved.open_⟩) fun _ => ?_
  refine (Secures.write there.allHeld _).bind fun result first wrote => ?_
  obtain ⟨named, open_⟩ := archived_wrote there wrote
  refine Secures.ite (fun _ => Secures.pure ⟨named, open_.trans moved.open_⟩) fun _ => ?_
  refine (Secures.write named.allHeld _).bind fun result second wrote' => ?_
  obtain ⟨summed, open'⟩ := archived_wrote named wrote'
  have same := open'.trans (open_.trans moved.open_)
  refine Secures.ite (fun _ => Secures.pure ⟨summed, same⟩) fun _ => ?_
  exact (Secures.fsync summed.allHeld).imp fun _ after unchanged => by
    rw [unchanged]
    exact ⟨summed, same⟩

/-- `PaddingIfNewSegment` of a segment that has no record. -/
theorem paddingIfNewSegment_secures (archived : Archived options store files number receipts)
    (named : files.names (.segment (segmentId number)) = some inode)
    (opened : files.inodes store.curSegmentFd = some inode) (empty : files.contents inode = [])
    (unused : ∀ placed ∈ receipts, placed.number ≠ number) :
    Secures (paddingIfNewSegment store) files (AllHeld receipts) fun padded after =>
      Archived options padded.2 after number receipts ∧ after.inodes = files.inodes ∧
        after.names = files.names ∧ padded.2.curSegmentFd = store.curSegmentFd ∧
        (0 ≤ padded.1 → padded.2.curSegmentFileSize = options.segmentMaxSize) := by
  have negative : ¬ (0 : Int) ≤ -1 := by decide
  refine (Secures.lseek_finish archived.allHeld).bind ?_
  rintro fileSize placed ⟨moved, result⟩
  have there := archived.unchanged moved.unchanged
  have names : placed.names = files.names := congrArg Disk.names moved.disk
  refine Secures.ite (fun _ => Secures.pure ⟨there, moved.open_, names, rfl,
    fun padded => absurd padded negative⟩) fun found => ?_
  have none : ¬ 0 < fileSize := by
    rcases result with failed | ⟨other, found', length⟩
    · omega
    · obtain rfl : inode = other := Option.some.inj (opened.symm.trans found')
      rw [length, empty, List.length_nil]
      decide
  rw [if_neg none]
  refine (Secures.lseek_start there.allHeld _).bind ?_
  rintro last middle ⟨moved', _⟩
  have there' := there.unchanged moved'.unchanged
  have open_ := moved'.open_.trans moved.open_
  have names' : middle.names = files.names := (congrArg Disk.names moved'.disk).trans names
  refine Secures.ite (fun _ => Secures.pure ⟨there', open_, names', rfl,
    fun padded => absurd padded negative⟩) fun _ => ?_
  refine (Secures.write there'.allHeld _).bind fun writeSize padded wrote => ?_
  have kept : Archived options store padded number receipts ∧ padded.inodes = files.inodes ∧
      padded.names = files.names := by
    obtain ⟨-, rfl⟩ | ⟨other, position, written, here, -, -, moved⟩ := wrote
    · exact ⟨there', open_, names'⟩
    · have found : middle.inodes store.curSegmentFd = some other := by
        rw [Files.inodes, here]
        rfl
      obtain rfl : inode = other := Option.some.inj (opened.symm.trans (open_ ▸ found))
      have nothing : (middle.contents inode).take 0 <+:
          writeAt (middle.contents inode) position written := by
        rw [List.take_zero]
        exact List.nil_prefix
      have filled := there'.written (names' ▸ named) nothing fun placed member same =>
        absurd same (unused placed member)
      exact ⟨filled.unchanged moved.unchanged, moved.open_.trans open_,
        (congrArg Disk.names moved.disk).trans names'⟩
  obtain ⟨there, open_, names⟩ := kept
  refine Secures.ite (fun _ => Secures.pure ⟨there, open_, names, rfl,
    fun padded => absurd padded negative⟩) fun _ => ?_
  refine (Secures.lseek_start there.allHeld 0).bind ?_
  rintro offset last ⟨moved, _⟩
  have there' := there.unchanged moved.unchanged
  have open' := moved.open_.trans open_
  have names' : last.names = files.names := (congrArg Disk.names moved.disk).trans names
  refine Secures.ite (fun _ => Secures.pure ⟨there', open', names', rfl,
    fun padded => absurd padded negative⟩) fun _ => ?_
  exact Secures.pure ⟨{ there' with fileSize := there'.maxSize.le }, open', names', rfl,
    fun _ => there'.maxSize⟩

/-- `NewSegment` starts a segment, or leaves none open. -/
theorem newSegment_secures (env : Environment)
    (archived : Archived options store files number receipts)
    (shut : files.inodes store.curSegmentFd = none) (more : number + 1 < 2 ^ 32) :
    Secures (newSegment env store) files (AllHeld receipts) fun started after =>
      ∃ number' ≤ number + 1, Guarded options started.2 after number' receipts ∧
        (started.1 = true → started.2.curSegmentFileSize = options.segmentMaxSize ∧
          started.2.curSegmentOffset = 0) := by
  refine (updateMetadata_secures env archived).bind ?_
  rintro updated middle ⟨there, open_⟩
  have shut' : middle.inodes store.curSegmentFd = none := open_ ▸ shut
  refine Secures.ite (fun _ => Secures.pure ⟨number, Nat.le_succ _, there.guarded shut',
    fun ready => absurd ready Bool.false_ne_true⟩) fun _ => ?_
  have free : middle.names (.segment (store.curSegmentId + 1)) = none := by
    rw [there.id, ← segmentId_succ]
    refine there.beyond _ fun other le same => ?_
    have equal := segmentId_inj more (by omega) same
    omega
  have next := there.next more
  have unused : ∀ placed ∈ receipts, placed.number ≠ number + 1 := fun placed member =>
    Nat.ne_of_lt (Nat.lt_succ_of_le (there.used placed member))
  dsimp only
  refine (Secures.access_missing there.allHeld free).bind ?_
  rintro found same ⟨missing, equal⟩
  rw [missing, equal, if_neg Bool.false_ne_true]
  refine (Secures.openFile_missing there.allHeld free).bind fun fd opened result => ?_
  obtain ⟨failed, rfl⟩ | ⟨given, rfl⟩ := result
  · rw [if_pos failed]
    exact Secures.pure ⟨number + 1, le_rfl, next.guarded shut',
      fun ready => absurd ready Bool.false_ne_true⟩
  · rw [given, if_neg (natCast_ne_failed _)]
    have name : FileName.segment (store.curSegmentId + 1) = .segment (segmentId (number + 1)) :=
      congrArg FileName.segment next.id
    rw [name] at free ⊢
    have created := next.created free unused middle.nextDescriptor
    have opened := there.sound.openedAs_missing free
    have here := (congrFun opened.open_ middle.nextDescriptor).trans (Function.update_self ..)
    have empty := opened.contents
    rw [Disk.view_eq_none.mpr free, Option.getD_none] at empty
    refine (paddingIfNewSegment_secures created opened.named here empty unused).bind ?_
    rintro ⟨result, padded⟩ after ⟨there, open_, names, fd, size⟩
    dsimp only at *
    refine Secures.ite (fun _ => ?_) fun filled => Secures.pure ⟨number + 1, le_rfl, ?_, ?_⟩
    · refine (Secures.close there.allHeld).bind fun _ closed equal => ?_
      rw [equal]
      have shut : (after.withDescriptor padded.curSegmentFd none).inodes padded.curSegmentFd =
          none := by
        rw [Files.withDescriptor_inodes, Function.update_self]
        rfl
      exact Secures.pure ⟨number + 1, le_rfl, (there.closed _).guarded shut,
        fun ready => absurd ready Bool.false_ne_true⟩
    · refine ⟨{ there with }, fun inode found => ⟨?_, 0, rfl, Nat.zero_le _, ?_⟩⟩
      swap
      · exact fun placed member same => absurd same (unused placed member)
      rw [open_, fd, here] at found
      rw [names, ← Option.some.inj found]
      exact opened.named
    · exact fun _ => ⟨size (not_lt.mp filled), rfl⟩

/-- A record of a size fits behind those of the segment in use, if one is open. -/
def RoomFor (options : LogStorageOptions) (store : LogSegmentStore) (files : Files FileName)
    (size : Nat) : Prop :=
  ∀ inode, files.inodes store.curSegmentFd = some inode → ∀ offset : Nat,
    store.curSegmentOffset = offset → offset + size ≤ options.segmentMaxSize

/-- The start of `Append` leaves room in the segment in use, or no segment open. -/
theorem makeRoom_secures (env : Environment) (sized : options.Sized)
    (guarded : Guarded options store files number receipts) (more : number + 1 < 2 ^ 32)
    {bufferLength : Nat} (small : bufferLength ≤ options.segmentMaxSize) :
    Secures (makeRoom env store bufferLength) files (AllHeld receipts) fun made after =>
      ∃ number' ≤ number + 1, Guarded options made.2 after number' receipts ∧
        (made.1 = true → RoomFor options made.2 after bufferLength) := by
  have maxSize := sized.small
  refine Secures.ite (fun full => ?_) fun room => Secures.pure ⟨number, Nat.le_succ _, guarded,
    fun _ inode opened offset position => ?_⟩
  · refine (Secures.ftruncate guarded.allHeld _).bind fun cut middle result => ?_
    obtain ⟨rfl, rfl⟩ | ⟨rfl, inode, opened, rfl⟩ := result
    · exact Secures.pure ⟨number, Nat.le_succ _, guarded,
        fun ready => absurd ready Bool.false_ne_true⟩
    · obtain ⟨named, offset, position, bound, before⟩ := guarded.writing inode opened
      have there := guarded.toArchived.written named
        (take_prefix_resize (files.contents inode) offset) before
      rw [position, Int.toNat_natCast]
      refine (Secures.close there.allHeld).bind fun _ closed equal => ?_
      have shut : closed.inodes store.curSegmentFd = none := by
        rw [equal, Files.withDescriptor_inodes, Function.update_self]
        rfl
      have left : Archived options store closed number receipts := equal ▸ there.closed _
      refine (newSegment_secures env left shut more).bind ?_
      rintro ⟨ready, started⟩ after ⟨number', le, guarded', new⟩
      refine Secures.ite (fun _ => Secures.pure ⟨number', le, guarded',
        fun ready => absurd ready Bool.false_ne_true⟩) fun passed => Secures.pure ⟨number', le, ?_⟩
      have ready : ready = true := by simpa using passed
      obtain ⟨-, zero⟩ := new ready
      have same : { started with curSegmentOffset := 0 } = started := by
        rw [← zero]
      dsimp only
      rw [same]
      refine ⟨guarded', fun _ inode opened offset position => ?_⟩
      obtain rfl : offset = 0 := Int.ofNat_inj.mp (position.symm.trans zero)
      omega
  · obtain ⟨named, offset', position', bound, before⟩ := guarded.writing inode opened
    obtain rfl : offset = offset' := Int.ofNat_inj.mp (position.symm.trans position')
    have fileSize := guarded.fileSize
    rw [position] at room
    have cast : (offset : Int) + (bufferLength : Int) = ((offset + bufferLength : Nat) : Int) := by
      push_cast
      rfl
    rw [cast, sizeT_of_lt (by omega)] at room
    omega

/-- The end of `Append` acknowledges the record that it has written, or none. -/
theorem writeRecord_secures (guarded : Guarded options store files number receipts) {entry : Entry}
    (keyed : entry.key.length = options.indexKeyLength)
    (room : RoomFor options store files entry.size) :
    Secures (writeRecord env store entry.key entry.value) files (AllHeld receipts)
      fun written after =>
        written.1 = none ∧ Guarded options written.2 after number receipts ∨
          ∃ placed : Placed, placed.entry = entry ∧ written.1 = some (placed.index env) ∧
            Guarded options written.2 after number (receipts ++ [placed]) := by
  have bytes : littleEndian 8 (store.indexKeyLength + entry.value.length) ++
      (env.copied (entry.key ++ [0]) store.indexKeyLength ++ entry.value) =
        frame 8 entry.body := by
    rw [guarded.keyLength, env.copied_key keyed, frame, Entry.body, List.length_append, keyed]
  have body : env.copied (entry.key ++ [0]) store.indexKeyLength ++ entry.value = entry.body := by
    rw [guarded.keyLength, env.copied_key keyed, Entry.body]
  refine (Secures.touch _ _ files).bind fun _ same equal => ?_
  rw [equal]
  dsimp only
  rw [bytes, body]
  refine (Secures.lseek_start guarded.allHeld _).bind ?_
  rintro pos middle ⟨moved, result⟩
  have there := guarded.unchanged moved.unchanged
  refine Secures.ite (fun _ => Secures.pure (.inl ⟨rfl, there⟩)) fun here => ?_
  refine (Secures.write there.allHeld _).bind fun length after wrote => ?_
  obtain ⟨rfl, rfl⟩ | ⟨inode, position, written, opened, part, rfl, moved'⟩ := wrote
  · exact Secures.pure (.inl ⟨rfl, there⟩)
  · have open_ : middle.inodes store.curSegmentFd = some inode := by
      rw [Files.inodes, opened]
      rfl
    obtain ⟨named, offset, stands, bound, before⟩ := there.writing inode open_
    have stood : pos = store.curSegmentOffset := not_not.mp here
    have at_ : middle.descriptors store.curSegmentFd = some ⟨inode, offset⟩ := by
      rcases result with failed | ⟨_, found, opened', descriptor⟩
      · rw [stands] at stood
        omega
      · rw [stands, Int.toNat_natCast] at descriptor
        have same : files.inodes store.curSegmentFd = some inode := moved.open_ ▸ open_
        obtain rfl : found = inode := Option.some.inj (opened'.symm.trans same)
        exact descriptor
    obtain rfl : position = offset := congrArg OpenFile.position
      (Option.some.inj (opened.symm.trans at_))
    have kept := there.toArchived.written named
      (take_prefix_writeAt (middle.contents inode) position written) before
    have guarded' : Guarded options store after number receipts :=
      Guarded.unchanged ⟨kept, there.writing⟩ moved'.unchanged
    refine Secures.ite (fun _ => Secures.pure (.inl ⟨rfl, guarded'⟩)) fun whole => Secures.pure
      (.inr ⟨⟨number, position, entry⟩, rfl, ?_, ?_⟩)
    · rw [Placed.index, guarded.id, stands]
    · have all : written = frame 8 entry.body :=
        part.eq_of_length (Option.some.inj (not_not.mp whole))
      have view : after.view (.segment (segmentId number)) =
          some (writeAt (middle.contents inode) position written) := by
        rw [moved'.disk, Files.withContents_toDisk, there.sound.view_withContents named,
          Function.update_self]
      have stands' : (writeAt (middle.contents inode) position written).drop position =
          frame 8 entry.body ++
            (middle.contents inode).drop (position + (frame 8 entry.body).length) := by
        rw [all]
        exact drop_writeAt _ _ _ (by simp [frame, littleEndian])
      have fits := room inode (moved.open_ ▸ open_) position stands
      exact guarded'.acknowledge keyed fits view stands' stands

/-- `Append` acknowledges the record, or leaves what it has acknowledged before. -/
theorem append_secures (sized : options.Sized)
    (guarded : Guarded options store files number receipts) (more : number + 1 < 2 ^ 32)
    {entry : Entry} (keyed : entry.key.length = options.indexKeyLength) :
    Secures (append env store entry.key entry.value) files (AllHeld receipts)
      fun appended after => ∃ number' ≤ number + 1,
        appended.1 = none ∧ Guarded options appended.2 after number' receipts ∨
          ∃ placed : Placed, placed.entry = entry ∧ appended.1 = some (placed.index env) ∧
            Guarded options appended.2 after number' (receipts ++ [placed]) := by
  have size : 8 + (store.indexKeyLength + entry.value.length) = entry.size := by
    rw [guarded.keyLength, Entry.size, Entry.body, List.length_append, keyed]
  rw [append, size]
  refine Secures.ite (fun _ => Secures.pure ⟨number, Nat.le_succ _, .inl ⟨rfl, guarded⟩⟩)
    fun small => ?_
  rw [guarded.maxSize, not_lt] at small
  refine (makeRoom_secures env sized guarded more small).bind ?_
  rintro ⟨ready, made⟩ middle ⟨number', le, guarded', room⟩
  refine Secures.ite (fun _ => Secures.pure ⟨number', le, .inl ⟨rfl, guarded'⟩⟩) fun passed => ?_
  have ready : ready = true := by simpa using passed
  exact (writeRecord_secures guarded' keyed (room ready)).imp fun _ _ written =>
    ⟨number', le, written⟩

/-- Bytes that are all read are those that stand in the file. -/
theorem read_whole {fd : FD} {position count : Nat} {wanted : List UInt8}
    (opened : files.descriptors fd = some ⟨inode, position⟩)
    (stands : readAt (files.contents inode) position count = wanted)
    (length : wanted.length = count) (small : count < 2 ^ 64 - 1) :
    Secures (Posix.read fd count) files (fun _ => True) fun result after =>
      readLen result = count → result = some wanted ∧ after.toDisk = files.toDisk ∧
        after.descriptors fd = some ⟨inode, position + count⟩ := by
  refine (Secures.read trivial count).imp fun result after moves whole => ?_
  rcases moves with ⟨none, -⟩ | ⟨other, place, bytes, opened', part, rfl, rfl⟩
  · rw [none, readLen] at whole
    have failed : 2 ^ 64 - 1 = count := whole
    omega
  · obtain ⟨rfl, rfl⟩ := OpenFile.mk.inj (Option.some.inj (opened.symm.trans opened'))
    have same : bytes.length = count := whole
    rw [stands] at part
    obtain rfl := part.eq_of_length (same.trans length.symm)
    exact ⟨rfl, rfl, by rw [Files.descriptor_self, same]⟩

/-- `Read` closes the file and returns nothing. -/
theorem gives_up (fd : FD) (files : Files FileName) {post : Option (List UInt8 × List UInt8) → Prop}
    (none : post none) :
    Secures (do Posix.close fd; pure (Option.none : Option (List UInt8 × List UInt8))) files
      (fun _ => True) fun result _ => post result :=
  (Secures.close trivial).bind fun _ _ _ => Secures.pure none

/-- `Read` leaves the files as they are, whatever becomes of its calls. -/
theorem read_leaves (env : Environment) (store : LogSegmentStore) (index : SegmentIndex)
    (sound : files.Sound) :
    Secures (read env store index) files (fun after => after.toDisk = files.toDisk)
      fun _ after => files.Unchanged after := by
  rw [read]
  rcases parseSegmentIndex index with ⟨id, offset, checksum⟩
  dsimp only
  have here : files.toDisk = files.toDisk := rfl
  refine (Secures.openFile here).bind fun fd opened result => ?_
  obtain ⟨rfl, rfl⟩ | ⟨rfl, inode, named, rfl⟩ := result
  · rw [if_pos rfl]
    exact Secures.pure (Files.Moved.refl _).unchanged
  rw [if_neg (natCast_ne_failed _)]
  have finish {β : Type} {after : Files FileName} (result : β)
      (moved : (files.opened inode).Moved after) :
      Secures (do Posix.close files.nextDescriptor; pure result) after
        (fun after => after.toDisk = files.toDisk) fun _ after => files.Unchanged after := by
    refine (Secures.close moved.disk).bind fun _ closed equal => Secures.pure ?_
    rw [equal]
    exact sound.unchanged_closed moved.disk (by rw [moved.open_, Files.opened_inodes])
      (by rw [moved.next]; rfl)
  refine (Secures.lseek_start here _).bind ?_
  rintro pos sought ⟨moved, _⟩
  refine Secures.ite (fun _ => finish _ moved) fun _ => ?_
  refine (Secures.read_moves moved.disk _).bind fun kvSize first next => ?_
  have moved := moved.trans next
  refine Secures.ite (fun _ => finish _ moved) fun _ => ?_
  refine (Secures.touch _ _ _).bind fun _ _ equal => ?_
  rw [equal]
  refine (Secures.read_moves moved.disk _).bind fun key second next => ?_
  have moved := moved.trans next
  refine (Secures.touch _ _ _).bind fun _ _ equal => ?_
  rw [equal]
  refine Secures.ite (fun _ => finish _ moved) fun _ => ?_
  refine (Secures.read_moves moved.disk _).bind fun value third next => ?_
  have moved := moved.trans next
  refine (Secures.touch _ _ _).bind fun _ _ equal => ?_
  rw [equal]
  refine Secures.ite (fun _ => finish _ moved) fun _ => ?_
  exact Secures.ite (fun _ => finish _ moved) fun _ => finish _ moved

/-- What three reads return where a record stands. -/
theorem reads_of_stands {contents key value rest : List UInt8} {offset : Nat}
    (stands : contents.drop offset = frame 8 (key ++ value) ++ rest) :
    readAt contents offset 8 = littleEndian 8 (key ++ value).length ∧
      readAt contents (offset + 8) key.length = key ∧
      readAt contents (offset + 8 + key.length) value.length = value := by
  rw [frame, List.append_assoc] at stands
  have behind : contents.drop (offset + 8) = key ++ (value ++ rest) := by
    rw [← List.drop_drop, stands, List.append_assoc]
    exact List.drop_left' (length_littleEndian _ _)
  refine ⟨?_, ?_, ?_⟩
  · rw [readAt, stands]
    exact List.take_left' (length_littleEndian _ _)
  · rw [readAt, behind, List.take_left]
  · rw [readAt, ← List.drop_drop, behind, List.drop_left, List.take_left]

/-- A record that stands where its index says is read by it, or nothing is, whatever becomes of the
calls of `Read`. -/
theorem read_secures {placed : Placed} (held : placed.Held files.toDisk)
    (length : placed.entry.key.length = store.indexKeyLength) (small : placed.offset < 2 ^ 63)
    (fits : placed.entry.body.length < 2 ^ 63) :
    Secures (read env store (placed.index env)) files (fun _ => True) fun result _ =>
      result = none ∨ result = some (placed.entry.key, placed.entry.value) := by
  obtain ⟨bytes, rest, seen, stands⟩ := held
  obtain ⟨inode, named, rfl⟩ := Disk.name_of_view seen
  obtain ⟨number, offset, ⟨key, value⟩⟩ := placed
  dsimp only [Entry.body] at *
  have checksum : (env.crc32 (key ++ value)).toNat < 2 ^ 64 := by
    have := (env.crc32 (key ++ value)).toNat_lt
    omega
  have body := fits
  rw [List.length_append] at body
  obtain ⟨start, second, third⟩ := reads_of_stands stands
  have count : ofLittleEndian (littleEndian 8 (key ++ value).length) = (key ++ value).length :=
    ofLittleEndian_littleEndian_of_lt (by omega)
  have valueLen : sizeT (((key ++ value).length : Int) - key.length) = value.length := by
    have cast : ((key ++ value).length : Int) - key.length = (value.length : Int) := by
      rw [List.length_append]
      omega
    rw [cast, sizeT_of_lt (by omega)]
  rw [read, Placed.index, Entry.body, parseSegmentIndex_toSegmentIndex _ small checksum]
  dsimp only
  refine (Secures.openFile trivial).bind fun fd opened result => ?_
  refine Secures.ite (fun _ => Secures.pure (.inl rfl)) fun passed => ?_
  obtain ⟨given, found, named', rfl⟩ := result.resolve_left fun failed => passed failed.1
  obtain rfl : inode = found := Option.some.inj (named.symm.trans named')
  refine (Secures.lseek_start trivial _).bind ?_
  rintro pos sought ⟨moved, place⟩
  refine Secures.ite (fun _ => gives_up _ _ (.inl rfl)) fun here => ?_
  obtain ⟨-, other, open_, stood⟩ := place.resolve_left (by omega)
  obtain rfl : inode = other := by
    rw [given, Files.opened_inodes, Function.update_self] at open_
    exact Option.some.inj open_
  have same : sought.contents = files.contents := congrArg Disk.contents moved.disk
  refine (read_whole stood (by rw [same]; exact start) (length_littleEndian _ _)
    (by omega)).bind fun kvSize first whole => ?_
  refine Secures.ite (fun _ => gives_up _ _ (.inl rfl)) fun eight => ?_
  obtain ⟨rfl, unread, stood⟩ := whole (not_not.mp eight)
  have same : first.contents = files.contents := (congrArg Disk.contents unread).trans same
  rw [Int.toNat_natCast] at stood
  rw [Option.getD_some, count, ← length]
  refine (Secures.touch _ _ _).bind fun _ made equal => ?_
  rw [← equal] at same stood
  refine (read_whole stood (by rw [same]; exact second) rfl (by omega)).bind
    fun keyRead afterKey whole => ?_
  refine (Secures.touch _ _ _).bind fun _ touched equal => ?_
  refine Secures.ite (fun _ => gives_up _ _ (.inl rfl)) fun all => ?_
  obtain ⟨rfl, unread, stood⟩ := whole (not_not.mp all)
  have same : touched.contents = files.contents := by
    rw [equal]
    exact (congrArg Disk.contents unread).trans same
  rw [← equal] at stood
  rw [valueLen]
  refine (read_whole stood (by rw [same]; exact third) rfl (by omega)).bind
    fun valueRead afterValue whole => ?_
  refine (Secures.touch _ _ _).bind fun _ touched' equal' => ?_
  refine Secures.ite (fun _ => gives_up _ _ (.inl rfl)) fun all => ?_
  obtain ⟨rfl, -, -⟩ := whole (not_not.mp all)
  rw [Option.getD_some, Option.getD_some, List.take_length, if_neg (by simp), List.take_left,
    List.drop_left]
  exact (Secures.close trivial).bind fun _ _ _ => Secures.pure (.inr rfl)

end LogSegmentStore

/-- A record of a layout stands where its index says, in front of the records behind it. -/
theorem Laid.held {layout : Layout} {tail : List UInt8}
    (laid : Laid env options (fun _ => False) layout tail store files) {placed : Placed}
    (member : placed ∈ layout.placed) :
    placed.Held files.toDisk ∧ placed.entry.key.length = options.indexKeyLength ∧
      placed.offset + placed.entry.size ≤ options.segmentMaxSize ∧
      placed.number ≤ layout.closed.length ∧
      (placed.number = layout.closed.length →
        placed.offset + placed.entry.size ≤ (segmentBytes layout.current).length) := by
  obtain ⟨before, behind, found, position⟩ := Layout.of_mem_placed member
  obtain ⟨inode, named, stands, -⟩ := laid.readable.record_file found not_false
  have bound := laid.fits.bounded (List.mem_of_getElem? found)
  have inside := (List.getElem?_eq_some_iff.mp found).1
  rw [segmentBytes_append, List.length_append, length_segmentBytes_cons] at bound
  rw [List.length_append, List.length_singleton] at inside
  refine ⟨⟨_, _, Disk.view_of_name named, by rw [position]; exact stands⟩,
    laid.fits.keyed _ (List.mem_of_getElem? found) _ (by simp), by omega, by omega, ?_⟩
  intro last
  rw [last] at found
  obtain same : layout.current = _ := by simpa using found
  rw [same, segmentBytes_append, List.length_append, length_segmentBytes_cons]
  omega

/-- A running store that holds the records of a layout. -/
theorem Laid.guarded {layout : Layout} {tail : List UInt8}
    (laid : Laid env options (fun _ => False) layout tail store files) :
    Guarded options store files layout.closed.length layout.placed := by
  obtain ⟨inode, opened, contents, linked, -⟩ := laid.curOpen
  obtain ⟨metaInode, metaOpened, metaNamed⟩ := laid.metaOpen
  have current := laid.fits.current
  refine ⟨⟨laid.sound, laid.keyLength, laid.maxSize, laid.fileSize ▸ current, laid.id,
    laid.archive.number, ?beyond, ?metaApart, ?metaGiven, fun _ member => (laid.held member).2.1,
    fun _ member => (laid.held member).2.2.1, fun _ member => (laid.held member).2.2.2.1,
    fun _ member => (laid.held member).1⟩, ?writing⟩
  case beyond => exact fun id apart => Disk.view_eq_none.mp (laid.archive.beyond id apart)
  case metaApart =>
    intro other opened id named
    obtain rfl : metaInode = other := Option.some.inj (metaOpened.symm.trans opened)
    have same := laid.sound.single _ _ _ named metaNamed
    exact absurd same FileName.noConfusion
  case metaGiven =>
    refine not_le.mp fun new => ?_
    have unopened := laid.sound.unopened _ new
    rw [metaOpened] at unopened
    cases unopened
  case writing =>
    intro other opened'
    obtain rfl : inode = other := Option.some.inj (opened.symm.trans opened')
    rw [List.length_append] at current
    exact ⟨linked not_false, _, laid.offset, by omega, fun _ member => (laid.held member).2.2.2.2⟩

/-- The records that a process has acknowledged are in their places, and as long as it runs its
store keeps away from them. -/
structure Kept (env : Environment) (options : LogStorageOptions) (process : Troubled)
    (number : Nat) (receipts : List Placed) : Prop extends AllHeld receipts process.files where
  issued : process.issued = receipts.map fun placed => (placed.entry, placed.index env)
  keyed : ∀ placed ∈ receipts, placed.entry.key.length = options.indexKeyLength
  inside : ∀ placed ∈ receipts, placed.offset + placed.entry.size ≤ options.segmentMaxSize
  running : ∀ store, process.store = some store →
    Guarded options store process.files number receipts

/-- The keys of the records that are to be appended have the length of the options. -/
def Attempt.Keyed (options : LogStorageOptions) (attempt : Attempt) : Prop :=
  ∀ entry, attempt.request = .append entry → entry.key.length = options.indexKeyLength

/-- A record is read by its index from a disk, by any store with keys of the same length, when the
calls of `Read` go through; whatever becomes of them, nothing else is read, and the files stay as
they are. -/
structure ReadFrom (env : Environment) (options : LogStorageOptions) (disk : Disk FileName)
    (entry : Entry) (index : SegmentIndex) : Prop where
  reads : ∀ (reader : LogSegmentStore) (files : Files FileName), files.Sound →
    reader.indexKeyLength = options.indexKeyLength → files.toDisk = disk →
    Completes (reader.read env index) files (some (entry.key, entry.value)) files.Unchanged
  orNothing : ∀ (reader : LogSegmentStore) (files : Files FileName), files.Sound →
    reader.indexKeyLength = options.indexKeyLength → files.toDisk = disk →
    Secures (reader.read env index) files (fun after => after.toDisk = files.toDisk)
      fun result after => files.Unchanged after ∧
        (result = none ∨ result = some (entry.key, entry.value))

/-- A record that stands where its index says can be read. -/
theorem Placed.Held.readFrom {placed : Placed} {disk : Disk FileName} (sized : options.Sized)
    (held : placed.Held disk) (keyed : placed.entry.key.length = options.indexKeyLength)
    (inside : placed.offset + placed.entry.size ≤ options.segmentMaxSize) :
    ReadFrom env options disk placed.entry (placed.index env) := by
  have small := sized.small
  rw [Entry.size] at inside
  constructor
  · rintro reader files sound same rfl
    obtain ⟨bytes, rest, seen, stands⟩ := held
    obtain ⟨inode, named, rfl⟩ := Disk.name_of_view seen
    rw [Entry.body] at inside
    exact LogSegmentStore.read_record sound named stands (keyed.trans same.symm) (by omega)
      (by omega)
  · rintro reader files sound same rfl
    exact (LogSegmentStore.read_leaves env reader _ sound).and
      (LogSegmentStore.read_secures held (keyed.trans same.symm) (by omega) (by omega))

namespace Kept

variable {process : Troubled} {attempt : Attempt} {attempts : List Attempt}

/-- A process that runs on. -/
theorem of_guarded (guarded : Guarded options store files number receipts)
    {issued : List (Entry × SegmentIndex)}
    (same : issued = receipts.map fun placed => (placed.entry, placed.index env)) :
    Kept env options ⟨some store, files, issued⟩ number receipts where
  toAllHeld := guarded.allHeld
  issued := same
  keyed := guarded.keyed
  inside := guarded.inside
  running _ running := Option.some.inj running ▸ guarded

/-- A process that has stopped. -/
theorem stopped (kept : Kept env options process number receipts)
    (left : AllHeld receipts files) :
    Kept env options ⟨none, files, process.issued⟩ number receipts where
  toAllHeld := left
  issued := kept.issued
  keyed := kept.keyed
  inside := kept.inside
  running _ running := absurd running.symm (Option.some_ne_none _)

/-- `Append`. -/
theorem append (sized : options.Sized) (kept : Kept env options process number receipts)
    (running : process.store = some store) (more : number + 1 < 2 ^ 32) {entry : Entry}
    (keyed : entry.key.length = options.indexKeyLength) :
    ∃ number' ≤ number + 1, ∃ receipts', receipts <+: receipts' ∧
      Kept env options (process.append env store entry attempt) number' receipts' := by
  have secures : Secures (store.append env entry.key entry.value) process.files
      (AllHeld receipts) _ :=
    LogSegmentStore.append_secures sized (kept.running store running) more keyed
  obtain ⟨returns, stops⟩ := secures (attempt.world process.files) rfl
  rw [Troubled.append]
  cases ran : store.append env entry.key entry.value (attempt.world process.files) with
  | mk value world =>
    rw [ran] at returns stops
    cases value with
    | none => exact ⟨number, Nat.le_succ _, receipts, List.prefix_rfl, kept.stopped (stops rfl)⟩
    | some value =>
      obtain ⟨number', le, ⟨none, guarded⟩ | ⟨placed, same, index, guarded⟩⟩ := returns value rfl
      · refine ⟨number', le, receipts, List.prefix_rfl, of_guarded guarded ?_⟩
        rw [none, kept.issued]
        exact List.append_nil _
      · refine ⟨number', le, receipts ++ [placed], List.prefix_append _ _, of_guarded guarded ?_⟩
        rw [index, kept.issued, List.map_append, ← same]
        rfl

/-- `Read`. -/
theorem read (kept : Kept env options process number receipts)
    (running : process.store = some store) (index : SegmentIndex) :
    Kept env options (process.read env store index attempt) number receipts := by
  have guarded := kept.running store running
  obtain ⟨returns, stops⟩ := LogSegmentStore.read_leaves env store index guarded.sound
    (attempt.world process.files) rfl
  rw [Troubled.read]
  cases ran : store.read env index (attempt.world process.files) with
  | mk value world =>
    rw [ran] at returns stops
    cases value with
    | none =>
      refine kept.stopped ?_
      obtain ⟨sound, held⟩ := kept.toAllHeld
      rw [← stops rfl] at sound held
      exact ⟨sound, held⟩
    | some value => exact of_guarded (guarded.unchanged (returns value rfl)) kept.issued

/-- One request. -/
theorem step (sized : options.Sized) (kept : Kept env options process number receipts)
    (more : number + 1 < 2 ^ 32) (keyed : attempt.Keyed options) :
    ∃ number' ≤ number + 1, ∃ receipts', receipts <+: receipts' ∧
      Kept env options (process.step env attempt) number' receipts' := by
  rw [Troubled.step]
  cases running : process.store with
  | none => exact ⟨number, Nat.le_succ _, receipts, List.prefix_rfl, kept⟩
  | some store =>
    cases request : attempt.request with
    | append entry => exact kept.append sized running more (keyed entry request)
    | read index =>
      exact ⟨number, Nat.le_succ _, receipts, List.prefix_rfl, kept.read running index⟩

/-- Some requests. -/
theorem steps (sized : options.Sized) (kept : Kept env options process number receipts)
    (more : number + attempts.length < 2 ^ 32)
    (keyed : ∀ attempt ∈ attempts, attempt.Keyed options) :
    ∃ number' receipts', receipts <+: receipts' ∧
      Kept env options (attempts.foldl (Troubled.step env) process) number' receipts' := by
  induction attempts generalizing process number receipts with
  | nil => exact ⟨number, receipts, List.prefix_rfl, kept⟩
  | cons attempt attempts ih =>
    rw [List.length_cons] at more
    obtain ⟨middle, le, between, longer, kept'⟩ :=
      kept.step sized (by omega) (keyed attempt List.mem_cons_self)
    obtain ⟨number', receipts', longer', kept''⟩ := ih kept' (by omega)
      fun later member => keyed later (List.mem_cons_of_mem _ member)
    exact ⟨number', receipts', longer.trans longer', kept''⟩

end Kept

/-- What `Append` has acknowledged survives whatever becomes of the calls of later requests: each
may fail or move a part of its bytes, and the process may stop before any of them. -/
theorem acknowledged_records_survive {fuel : Nat} {disk : Disk FileName}
    {events : List StoreEvent} {attempts : List Attempt} (usable : options.Usable)
    (fresh : Fresh disk) (enough : options.segmentMaxSize < fuel) (keyed : Keyed options events)
    (requested : ∀ attempt ∈ attempts, attempt.Keyed options)
    (few : (layoutAfter options events).closed.length + attempts.length < 2 ^ 32) :
    ∃ session, Session.after env fuel options disk events = some session ∧
      session.issued <+: (Troubled.after env session attempts).issued ∧
      ∀ entry index, (entry, index) ∈ (Troubled.after env session attempts).issued →
        ReadFrom env options (Troubled.after env session attempts).files.toDisk entry index := by
  have held : ∃ session, Session.after env fuel options disk events = some session ∧
      session.Holds env options (layoutAfter options events) _ :=
    fresh.holds usable enough keyed (by omega)
  obtain ⟨session, ran, holds⟩ := held
  obtain ⟨number, receipts, longer, kept⟩ :=
    (Kept.of_guarded holds.laid.guarded holds.issued).steps usable.sized few requested
  refine ⟨session, ran, ?_, fun entry index issued => ?_⟩
  · rw [Troubled.after, kept.issued, holds.issued]
    exact longer.map _
  · rw [Troubled.after, kept.issued] at issued
    obtain ⟨placed, member, same⟩ := List.mem_map.mp issued
    obtain ⟨rfl, rfl⟩ := Prod.mk.inj same
    exact (kept.held placed member).readFrom usable.sized (kept.keyed placed member)
      (kept.inside placed member)

/-- The first three bytes of a record are written in a new segment, another one is acknowledged in
its place, and the process stops while it starts the next segment. -/
def troubles : List Attempt :=
  [⟨.append ⟨[2], []⟩, List.replicate 13 .succeeds ++ [.transfers 3], none⟩,
    ⟨.append ⟨[3], []⟩, [], none⟩, ⟨.append ⟨[4], []⟩, [], some 4⟩]

theorem acknowledged_records_survive_troubles :
    ∃ session, Session.after zlib 10 oneEach Disk.empty [.append ⟨[1], []⟩] = some session ∧
      session.issued <+: (Troubled.after zlib session troubles).issued ∧
      ∀ entry index, (entry, index) ∈ (Troubled.after zlib session troubles).issued →
        ReadFrom zlib oneEach (Troubled.after zlib session troubles).files.toDisk entry index :=
  acknowledged_records_survive oneEach_usable fresh_empty (by decide) (by simp [Keyed, oneEach])
    (by simp [troubles, Attempt.Keyed, oneEach]) (by decide)

-- The first and the third record are acknowledged, and the process has stopped.
example : (Session.after zlib 10 oneEach Disk.empty [.append ⟨[1], []⟩]).map (fun session =>
    let process := Troubled.after zlib session troubles
    (process.issued.map Prod.fst, process.store.isSome)) =
      some ([⟨[1], []⟩, ⟨[3], []⟩], false) := by decide +kernel

end Paxosme
