import Mathlib.Tactic.IntervalCases
import Paxosme.Verif.SegmentCalls

/-!
# How records lie in segments

The abstract store is a list of closed segments and a current one, each a list of records. A disk
holds it when every closed segment that has not been cleaned is the bytes of its records, the
current one is the bytes of its records with some bytes behind them, and the metadata file names
the current one (`Stored`). A running store holds it when besides its fields and its two open
files agree with it (`Laid`). `Init` turns the one into the other, and `Append` and `Read` keep
the second.
-/

namespace Paxosme

open Posix Bytes Framing

/-- A record of the log. -/
structure Entry where
  key : List UInt8
  value : List UInt8
  deriving DecidableEq, Repr

namespace Entry

/-- The bytes of a record behind its length. -/
def body (entry : Entry) : List UInt8 := entry.key ++ entry.value

/-- What a record takes in a segment. -/
def size (entry : Entry) : Nat := 8 + entry.body.length

end Entry

/-- The bytes of some records in a segment. -/
def segmentBytes (entries : List Entry) : List UInt8 := frames 8 (entries.map Entry.body)

@[simp] theorem segmentBytes_nil : segmentBytes [] = [] := rfl

theorem segmentBytes_cons (entry : Entry) (entries : List Entry) :
    segmentBytes (entry :: entries) = frame 8 entry.body ++ segmentBytes entries := by
  simp [segmentBytes]

theorem segmentBytes_append (first second : List Entry) :
    segmentBytes (first ++ second) = segmentBytes first ++ segmentBytes second := by
  simp [segmentBytes]

theorem segmentBytes_concat (entries : List Entry) (entry : Entry) :
    segmentBytes (entries ++ [entry]) = segmentBytes entries ++ frame 8 entry.body := by
  simp [segmentBytes]

theorem length_frame_body (entry : Entry) : (frame 8 entry.body).length = entry.size := by
  rw [length_frame, Entry.size]

theorem length_segmentBytes_cons (entry : Entry) (entries : List Entry) :
    (segmentBytes (entry :: entries)).length = entry.size + (segmentBytes entries).length := by
  rw [segmentBytes_cons, List.length_append, length_frame_body]

/-- The records of a store. -/
structure Layout where
  /-- Those of the segments that are full. -/
  closed : List (List Entry)
  /-- Those of the segment in use. -/
  current : List Entry
  deriving DecidableEq, Repr

namespace Layout

/-- No record, in the first segment. -/
def empty : Layout := ⟨[], []⟩

/-- A record more in the segment in use. -/
def put (layout : Layout) (entry : Entry) : Layout :=
  { layout with current := layout.current ++ [entry] }

/-- The segment in use is full and an empty one in use. -/
def roll (layout : Layout) : Layout := ⟨layout.closed ++ [layout.current], []⟩

/-- The name of the segment in use. -/
def currentName (layout : Layout) : FileName := .segment (segmentId layout.closed.length)

/-- The name of the segment that comes next. -/
def nextName (layout : Layout) : FileName := .segment (segmentId (layout.closed.length + 1))

theorem roll_currentName (layout : Layout) : layout.roll.currentName = layout.nextName := by
  simp [currentName, nextName, roll]

end Layout

/-- Options that a store can be used with: keys are not empty, and offsets in a segment fit the
result of `ReplayLog`. -/
structure LogStorageOptions.Usable (options : LogStorageOptions) : Prop where
  keys : 0 < options.indexKeyLength
  positive : 0 < options.segmentMaxSize
  small : options.segmentMaxSize < 2 ^ 31

/-- Options that records can be appended and read with: offsets in a segment fit an `off_t`. -/
structure LogStorageOptions.Sized (options : LogStorageOptions) : Prop where
  keys : 0 < options.indexKeyLength
  positive : 0 < options.segmentMaxSize
  small : options.segmentMaxSize < 2 ^ 63

/-- The keys have their length, and the segment in use, with the bytes behind its records, is not
too long. -/
structure Fits (options : LogStorageOptions) (layout : Layout) (tail : List UInt8) : Prop where
  keyed : ∀ entries ∈ layout.closed ++ [layout.current], ∀ entry ∈ entries,
    entry.key.length = options.indexKeyLength
  closed : ∀ entries ∈ layout.closed, (segmentBytes entries).length ≤ options.segmentMaxSize
  current : (segmentBytes layout.current ++ tail).length ≤ options.segmentMaxSize

/-- The closed segments, less those that have been cleaned, and the number of the one in use. -/
structure Archive (env : Environment) (gone : Nat → Prop) (closed : List (List Entry))
    (view : FileName → Option (List UInt8)) : Prop where
  number : closed.length < 2 ^ 32
  metadata : decodeMetadata env ((view .metadata).getD []) = some (segmentId closed.length)
  kept : ∀ n entries, closed[n]? = some entries → ¬ gone n →
    view (.segment (segmentId n)) = some (segmentBytes entries)
  cleaned : ∀ n < closed.length, gone n → view (.segment (segmentId n)) = none
  beyond : ∀ id, (∀ n ≤ closed.length, id ≠ segmentId n) → view (.segment id) = none

/-- A disk holds the records of a layout, with some bytes behind those of the segment in use. -/
structure Stored (env : Environment) (options : LogStorageOptions) (gone : Nat → Prop)
    (layout : Layout) (tail : List UInt8) (disk : Disk FileName) : Prop where
  sound : disk.Sound
  path : disk.path ≠ .other
  archive : Archive env gone layout.closed disk.view
  fits : Fits options layout tail
  inUse : ¬ gone layout.closed.length
  current : (disk.view layout.currentName).getD [] = segmentBytes layout.current ++ tail

/-- A running store holds the records of a layout. -/
structure Laid (env : Environment) (options : LogStorageOptions) (gone : Nat → Prop)
    (layout : Layout) (tail : List UInt8) (store : LogSegmentStore) (files : Files FileName) :
    Prop where
  sound : files.Sound
  path : files.path ≠ .other
  archive : Archive env gone layout.closed files.view
  fits : Fits options layout tail
  keyLength : store.indexKeyLength = options.indexKeyLength
  maxSize : store.segmentMaxSize = options.segmentMaxSize
  id : store.curSegmentId = segmentId layout.closed.length
  offset : store.curSegmentOffset = (segmentBytes layout.current).length
  fileSize : store.curSegmentFileSize = (segmentBytes layout.current ++ tail).length
  metaOpen : ∃ inode, files.inodes store.metaFd = some inode ∧
    files.names .metadata = some inode
  /-- The segment in use is open, and has its name unless it has been cleaned. -/
  curOpen : ∃ inode, files.inodes store.curSegmentFd = some inode ∧
    files.contents inode = segmentBytes layout.current ++ tail ∧
    (¬ gone layout.closed.length → files.names layout.currentName = some inode) ∧
    (gone layout.closed.length → tail = [] ∧ files.view layout.currentName = none ∧
      ∀ name, files.names name ≠ some inode)

/-- The files that a running store has open: the segment in use and the metadata file. -/
structure OpenFiles (gone : Nat → Prop) (layout : Layout) (tail : List UInt8)
    (store : LogSegmentStore) (files : Files FileName) (inode metaInode : Nat) : Prop where
  opened : files.inodes store.curSegmentFd = some inode
  metaOpened : files.inodes store.metaFd = some metaInode
  apart : metaInode ≠ inode
  metaNamed : files.names .metadata = some metaInode
  contents : files.contents inode = segmentBytes layout.current ++ tail
  linked : ¬ gone layout.closed.length → files.names layout.currentName = some inode
  unnamed : gone layout.closed.length → files.view layout.currentName = none ∧
    ∀ name, files.names name ≠ some inode

variable {env : Environment} {options : LogStorageOptions} {gone : Nat → Prop} {layout : Layout}
  {tail : List UInt8} {store : LogSegmentStore} {files : Files FileName}

theorem LogStorageOptions.Usable.sized (usable : options.Usable) : options.Sized where
  keys := usable.keys
  positive := usable.positive
  small := by
    have small := usable.small
    omega

/-- Records whose keys are not empty can be told from the end of a segment. -/
theorem framed_body {entry : Entry} (sized : options.Sized)
    (keyed : entry.key.length = options.indexKeyLength)
    (small : (frame 8 entry.body).length ≤ options.segmentMaxSize) : Framed 8 entry.body := by
  have keys := sized.keys
  have bound := sized.small
  rw [length_frame] at small
  refine ⟨fun empty => ?_, by omega⟩
  have none := congrArg List.length empty
  rw [Entry.body, List.length_append, List.length_nil] at none
  omega

namespace Archive

variable {closed : List (List Entry)} {view : FileName → Option (List UInt8)}

/-- The name of the next segment is free, as long as the numbers last. -/
theorem next_free (archive : Archive env gone closed view) (more : closed.length + 1 < 2 ^ 32) :
    view (.segment (segmentId (closed.length + 1))) = none := by
  refine archive.beyond _ fun n below same => ?_
  have equal := segmentId_inj more (by omega) same
  omega

/-- The segment in use and the bytes of the metadata file may change. -/
theorem congr (archive : Archive env gone closed view) {view' : FileName → Option (List UInt8)}
    (metadata : decodeMetadata env ((view' .metadata).getD []) = some (segmentId closed.length))
    (others : ∀ id, id ≠ segmentId closed.length → view' (.segment id) = view (.segment id)) :
    Archive env gone closed view' where
  number := archive.number
  metadata := metadata
  kept n entries found present := by
    have below : n < closed.length := (List.getElem?_eq_some_iff.mp found).1
    have number := archive.number
    rw [others _ fun same => Nat.ne_of_lt below (segmentId_inj (by omega) number same)]
    exact archive.kept n entries found present
  cleaned n below absent := by
    have number := archive.number
    rw [others _ fun same => Nat.ne_of_lt below (segmentId_inj (by omega) number same)]
    exact archive.cleaned n below absent
  beyond id apart := by
    rw [others id (apart _ le_rfl)]
    exact archive.beyond id apart

/-- The segment in use, cut behind its records or cleaned, is closed and the next one in use. -/
theorem roll (archive : Archive env gone closed view) {current : List Entry}
    {view' : FileName → Option (List UInt8)} (more : closed.length + 1 < 2 ^ 32)
    (metadata : decodeMetadata env ((view' .metadata).getD []) =
      some (segmentId (closed.length + 1)))
    (cut : ¬ gone closed.length →
      view' (.segment (segmentId closed.length)) = some (segmentBytes current))
    (absent : gone closed.length → view' (.segment (segmentId closed.length)) = none)
    (others : ∀ id, id ≠ segmentId closed.length → id ≠ segmentId (closed.length + 1) →
      view' (.segment id) = view (.segment id)) :
    Archive env gone (closed ++ [current]) view' := by
  have length : (closed ++ [current]).length = closed.length + 1 := by simp
  have apart : ∀ n < closed.length, segmentId n ≠ segmentId closed.length ∧
      segmentId n ≠ segmentId (closed.length + 1) := by
    intro n below
    refine ⟨fun same => ?_, fun same => ?_⟩
    · have := segmentId_inj (by omega) (by omega) same
      omega
    · have := segmentId_inj (by omega) more same
      omega
  constructor
  · rw [length]; exact more
  · rw [length]; exact metadata
  · intro n entries found present
    rcases Nat.lt_or_ge n closed.length with below | above
    · rw [others _ (apart n below).1 (apart n below).2]
      rw [List.getElem?_append_left below] at found
      exact archive.kept n entries found present
    · have inside := (List.getElem?_eq_some_iff.mp found).1
      obtain rfl : n = closed.length := by omega
      obtain rfl : current = entries := by simpa using found
      exact cut present
  · intro n below cleaned
    rw [length] at below
    rcases Nat.lt_or_ge n closed.length with below' | above
    · rw [others _ (apart n below').1 (apart n below').2]
      exact archive.cleaned n below' cleaned
    · obtain rfl : n = closed.length := by omega
      exact absent cleaned
  · intro id free
    rw [length] at free
    rw [others id (free _ (by omega)) (free _ le_rfl)]
    exact archive.beyond id fun n below => free n (by omega)

end Archive

theorem segment_ne_current {id : SegmentId} (apart : id ≠ segmentId layout.closed.length) :
    FileName.segment id ≠ layout.currentName := fun same => apart (FileName.segment.inj same)

theorem metadata_ne_current (layout : Layout) : FileName.metadata ≠ layout.currentName :=
  fun same => by cases same

/-- A record written over the bytes behind the others does not make the segment longer. -/
theorem length_put {entry : Entry} (room : entry.size ≤ tail.length) :
    (segmentBytes (layout.put entry).current ++ tail.drop entry.size).length =
      (segmentBytes layout.current ++ tail).length := by
  rw [Layout.put, segmentBytes_concat]
  simp only [List.length_append, length_frame_body, List.length_drop]
  omega

/-- No segment is too long. -/
theorem Fits.bounded (fits : Fits options layout tail) {entries : List Entry}
    (member : entries ∈ layout.closed ++ [layout.current]) :
    (segmentBytes entries).length ≤ options.segmentMaxSize := by
  rcases List.mem_append.mp member with old | new
  · exact fits.closed entries old
  · obtain rfl := List.mem_singleton.mp new
    have current := fits.current
    rw [List.length_append] at current
    omega

theorem Fits.put {entry : Entry} (fits : Fits options layout tail)
    (keyed : entry.key.length = options.indexKeyLength) (room : entry.size ≤ tail.length) :
    Fits options (layout.put entry) (tail.drop entry.size) where
  keyed entries member other inside := by
    rcases List.mem_append.mp member with old | new
    · exact fits.keyed entries (List.mem_append_left _ old) other inside
    · obtain rfl := List.mem_singleton.mp new
      rcases List.mem_append.mp inside with old | new
      · exact fits.keyed layout.current (by simp) other old
      · obtain rfl := List.mem_singleton.mp new
        exact keyed
  closed := fits.closed
  current := by rw [length_put room]; exact fits.current

/-- The bytes behind the records may get fewer. -/
theorem Fits.fewer {tail' : List UInt8} (fits : Fits options layout tail)
    (fewer : tail'.length ≤ tail.length) : Fits options layout tail' where
  keyed := fits.keyed
  closed := fits.closed
  current := by
    have current := fits.current
    rw [List.length_append] at current ⊢
    omega

/-! ## A running store -/

namespace Laid

/-- Reading changes nothing that a running store rests on. -/
theorem unchanged {after : Files FileName} (laid : Laid env options gone layout tail store files)
    (same : files.Unchanged after) : Laid env options gone layout tail store after where
  sound := same.sound laid.sound
  path := by rw [same.disk]; exact laid.path
  archive := by rw [same.disk]; exact laid.archive
  fits := laid.fits
  keyLength := laid.keyLength
  maxSize := laid.maxSize
  id := laid.id
  offset := laid.offset
  fileSize := laid.fileSize
  metaOpen := by rw [same.disk, same.open_]; exact laid.metaOpen
  curOpen := by rw [same.disk, same.open_]; exact laid.curOpen

/-- The disk under a running store holds its records. -/
theorem stored (laid : Laid env options gone layout tail store files)
    (inUse : ¬ gone layout.closed.length) :
    Stored env options gone layout tail files.toDisk where
  sound := laid.sound.toSound
  path := laid.path
  archive := laid.archive
  fits := laid.fits
  inUse := inUse
  current := by
    obtain ⟨inode, -, contents, linked, -⟩ := laid.curOpen
    rw [Disk.view_of_name (linked inUse), Option.getD_some, contents]

/-- Bytes are written over those behind the records. -/
theorem overwritten (laid : Laid env options gone layout tail store files)
    (inUse : ¬ gone layout.closed.length) {inode : Nat}
    (opened : files.inodes store.curSegmentFd = some inode) {written : List UInt8}
    (room : written.length ≤ tail.length) :
    Laid env options gone layout (written ++ tail.drop written.length) store
      (files.withContents inode (writeAt (files.contents inode)
        (segmentBytes layout.current).length written)) := by
  obtain ⟨found, opened', contents, linked, -⟩ := laid.curOpen
  obtain rfl : inode = found := Option.some.inj (opened.symm.trans opened')
  have bytes : writeAt (files.contents inode) (segmentBytes layout.current).length written =
      segmentBytes layout.current ++ (written ++ tail.drop written.length) := by
    rw [contents, writeAt_append]
  have length : (segmentBytes layout.current ++ (written ++ tail.drop written.length)).length =
      (segmentBytes layout.current ++ tail).length := by
    simp only [List.length_append, List.length_drop]
    omega
  have view := laid.sound.toSound.view_withContents (linked inUse)
    (segmentBytes layout.current ++ (written ++ tail.drop written.length))
  rw [bytes]
  constructor
  · exact laid.sound.withContents _ _
  · exact laid.path
  · rw [Files.withContents_toDisk, view]
    refine laid.archive.congr ?_ fun id apart => ?_
    · rw [Function.update_of_ne (metadata_ne_current layout)]
      exact laid.archive.metadata
    · exact Function.update_of_ne (segment_ne_current apart) ..
  · exact ⟨laid.fits.keyed, laid.fits.closed, by rw [length]; exact laid.fits.current⟩
  · exact laid.keyLength
  · exact laid.maxSize
  · exact laid.id
  · exact laid.offset
  · rw [length]; exact laid.fileSize
  · exact laid.metaOpen
  · exact ⟨inode, opened, Disk.withContents_same .., fun _ => linked inUse,
      fun absent => absurd absent inUse⟩

/-- A record that stands behind the others is one of them once the offset is behind it. -/
theorem absorb {entry : Entry} {rest : List UInt8}
    (laid : Laid env options gone layout (frame 8 entry.body ++ rest) store files)
    (keyed : entry.key.length = options.indexKeyLength) :
    Laid env options gone (layout.put entry) rest
      { store with
        curSegmentOffset := (((segmentBytes layout.current).length + entry.size : Nat) : Int) }
      files := by
  have bytes : segmentBytes (layout.put entry).current ++ rest =
      segmentBytes layout.current ++ (frame 8 entry.body ++ rest) := by
    rw [Layout.put, segmentBytes_concat, List.append_assoc]
  have fits := laid.fits.put keyed (by rw [List.length_append, length_frame_body]; omega)
  rw [← length_frame_body, List.drop_left] at fits
  constructor
  · exact laid.sound
  · exact laid.path
  · exact laid.archive
  · exact fits
  · exact laid.keyLength
  · exact laid.maxSize
  · exact laid.id
  · rw [Layout.put, segmentBytes_concat, List.length_append, length_frame_body]
  · rw [bytes]; exact laid.fileSize
  · exact laid.metaOpen
  · obtain ⟨inode, opened, contents, linked, cleaned⟩ := laid.curOpen
    refine ⟨inode, opened, by rw [bytes]; exact contents, linked, fun absent => ?_⟩
    have none := congrArg List.length (cleaned absent).1
    rw [List.length_append, length_frame_body, Entry.size, List.length_nil] at none
    omega

/-- The segment in use has its file when there are bytes behind its records. -/
theorem inUse_of_room (laid : Laid env options gone layout tail store files)
    (room : 0 < tail.length) : ¬ gone layout.closed.length := by
  intro absent
  obtain ⟨inode, -, -, -, cleaned⟩ := laid.curOpen
  rw [(cleaned absent).1, List.length_nil] at room
  omega

/-- A record that fits is written behind the others, with the bytes that are copied of its key. -/
theorem writeRecord_put
    (laid : Laid env options gone layout tail store files) {entry : Entry} {key : List UInt8}
    (copies : env.copied (key ++ [0]) options.indexKeyLength = entry.key)
    (room : entry.size ≤ tail.length) :
    ∃ store', Achieves (LogSegmentStore.writeRecord env store key entry.value) files
      [files.toDisk, files.toDisk]
      (some (LogSegmentStore.toSegmentIndex (segmentId layout.closed.length)
        (segmentBytes layout.current).length (env.crc32 entry.body).toNat), store')
      (Laid env options gone (layout.put entry) (tail.drop entry.size) store') := by
  have positive : 0 < entry.size := by rw [Entry.size]; omega
  have inUse := laid.inUse_of_room (Nat.lt_of_lt_of_le positive room)
  obtain ⟨inode, opened, -⟩ := laid.curOpen
  have keyed : entry.key.length = options.indexKeyLength := by
    rw [← copies, Environment.length_copied]
  have copies' : env.copied (key ++ [0]) store.indexKeyLength = entry.key := by
    rw [laid.keyLength]
    exact copies
  have writes : Achieves (LogSegmentStore.writeRecord env store key entry.value) files _ _ _ :=
    LogSegmentStore.writeRecord_performs laid.offset opened copies'
  rw [show entry.key ++ entry.value = entry.body from rfl, length_frame_body] at writes
  obtain ⟨after, performs, moved⟩ := writes
  have written := laid.overwritten inUse opened (by rw [length_frame_body]; exact room)
  rw [length_frame_body] at written
  rw [← laid.id]
  exact ⟨_, after, performs, (written.absorb keyed).unchanged moved.unchanged⟩

/-- `Append` starts a segment exactly when the current one has no room. -/
theorem full_iff (sized : options.Sized) (laid : Laid env options gone layout tail store files)
    {bufferLength : Nat} (small : bufferLength ≤ options.segmentMaxSize) :
    store.curSegmentFileSize < sizeT (store.curSegmentOffset + bufferLength) ↔
      tail.length < bufferLength := by
  have maxSize := sized.small
  have bound := laid.fits.current
  have cast : store.curSegmentOffset + bufferLength =
      (((segmentBytes layout.current).length + bufferLength : Nat) : Int) := by
    rw [laid.offset]
    omega
  rw [List.length_append] at bound
  rw [cast, sizeT_of_lt (by omega), laid.fileSize, List.length_append]
  omega

/-- The two files that a running store has open. -/
theorem openFiles (laid : Laid env options gone layout tail store files) :
    ∃ inode metaInode, OpenFiles gone layout tail store files inode metaInode := by
  obtain ⟨metaInode, metaOpened, metaNamed⟩ := laid.metaOpen
  obtain ⟨inode, opened, contents, linked, cleaned⟩ := laid.curOpen
  have apart : metaInode ≠ inode := fun same => by
    subst same
    by_cases absent : gone layout.closed.length
    · exact (cleaned absent).2.2 _ metaNamed
    · exact metadata_ne_current layout (laid.sound.single _ _ _ metaNamed (linked absent))
  exact ⟨inode, metaInode, opened, metaOpened, apart, metaNamed, contents, linked,
    fun absent => (cleaned absent).2⟩

/-- There is room for a record that is not longer than the bytes behind the others. -/
theorem makeRoom_fits (sized : options.Sized)
    (laid : Laid env options gone layout tail store files) {bufferLength : Nat}
    (room : bufferLength ≤ tail.length) :
    Achieves (LogSegmentStore.makeRoom env store bufferLength) files [] (true, store)
      files.Moved := by
  have bound := laid.fits.current
  rw [List.length_append] at bound
  have full := laid.full_iff sized (show bufferLength ≤ options.segmentMaxSize by omega)
  exact LogSegmentStore.makeRoom_fits (by omega)

end Laid

/-! ## Starting a segment -/

section Roll

variable (env : Environment) (options : LogStorageOptions) (layout : Layout)
  (disk : Disk FileName) (inode metaInode : Nat)

/-- The disk once the segment in use is cut behind its records. -/
def cutDisk : Disk FileName := disk.withContents inode (segmentBytes layout.current)

/-- The disk once bytes of the checksum follow the number of the next segment. -/
def namedDisk (checksum : List UInt8) : Disk FileName :=
  (cutDisk layout disk inode).withContents metaInode
    (metadataOf (disk.contents metaInode) (segmentId (layout.closed.length + 1)) checksum)

/-- The disk once the metadata file names the next segment. -/
def updatedDisk : Disk FileName := namedDisk layout disk inode metaInode
  (checksumBytes env (segmentId (layout.closed.length + 1)))

/-- The disk once the next segment has been created. -/
def createdDisk : Disk FileName :=
  (updatedDisk env layout disk inode metaInode).created layout.nextName

/-- The disk once the next segment has been filled with zeros. -/
def startedDisk : Disk FileName := (createdDisk env layout disk inode metaInode).withContents
  disk.nextInode (List.replicate options.segmentMaxSize 0)

/-- The disk before each call of `Append` up to the one that writes the record, when it starts a
segment. -/
def rollDisks : List (Disk FileName) :=
  let cut := cutDisk layout disk inode
  let named := namedDisk layout disk inode metaInode []
  let updated := updatedDisk env layout disk inode metaInode
  let created := createdDisk env layout disk inode metaInode
  [disk, cut, cut, cut, named, updated, updated, updated, created, created, created,
    startedDisk env options layout disk inode metaInode]

variable {env options layout disk inode metaInode}

theorem cutDisk_view (sound : disk.Sound) {unlinked : Prop}
    (linked : ¬ unlinked → disk.names layout.currentName = some inode)
    (unnamed : unlinked → disk.view layout.currentName = none ∧
      ∀ name, disk.names name ≠ some inode) :
    (cutDisk layout disk inode).view = Function.update disk.view layout.currentName
      ((disk.view layout.currentName).map fun _ => segmentBytes layout.current) :=
  sound.view_written linked unnamed _

theorem namedDisk_view (sound : disk.Sound) (named : disk.names .metadata = some metaInode)
    (checksum : List UInt8) :
    (namedDisk layout disk inode metaInode checksum).view =
      Function.update (cutDisk layout disk inode).view .metadata
        (some (metadataOf ((disk.view .metadata).getD []) (segmentId (layout.closed.length + 1))
          checksum)) := by
  have cutSound : (cutDisk layout disk inode).Sound := sound.withContents _ _
  rw [Disk.view_of_name named, Option.getD_some]
  exact cutSound.view_withContents named _

theorem createdDisk_view (sound : disk.Sound) :
    (createdDisk env layout disk inode metaInode).view =
      Function.update (updatedDisk env layout disk inode metaInode).view layout.nextName
        (some []) :=
  Disk.Sound.view_created ((sound.withContents _ _).withContents _ _) _

theorem startedDisk_view (sound : disk.Sound) :
    (startedDisk env options layout disk inode metaInode).view =
      Function.update (updatedDisk env layout disk inode metaInode).view layout.nextName
        (some (List.replicate options.segmentMaxSize 0)) := by
  have createdSound : (createdDisk env layout disk inode metaInode).Sound :=
    ((sound.withContents _ _).withContents _ _).created _
  have named : (createdDisk env layout disk inode metaInode).names layout.nextName =
      some disk.nextInode :=
    Disk.created_names_self _ _
  rw [startedDisk, createdSound.view_withContents named, createdDisk_view sound,
    Function.update_idem]

/-- The disks of a roll are sound. -/
theorem sound_of_mem_rollDisks (sound : disk.Sound) :
    ∀ passed ∈ rollDisks env options layout disk inode metaInode,
      passed.Sound ∧ passed.path = disk.path := by
  have cut : (cutDisk layout disk inode).Sound := sound.withContents _ _
  have named : ∀ checksum, (namedDisk layout disk inode metaInode checksum).Sound :=
    fun _ => cut.withContents _ _
  have created : (createdDisk env layout disk inode metaInode).Sound := (named _).created _
  have started : (startedDisk env options layout disk inode metaInode).Sound :=
    created.withContents _ _
  simp only [rollDisks, List.forall_mem_cons, List.not_mem_nil, false_implies, implies_true,
    and_true]
  exact ⟨sound, ⟨cut, rfl⟩, ⟨cut, rfl⟩, ⟨cut, rfl⟩, ⟨named _, rfl⟩, ⟨named _, rfl⟩,
    ⟨named _, rfl⟩, ⟨named _, rfl⟩, ⟨created, rfl⟩, ⟨created, rfl⟩, ⟨created, rfl⟩,
    ⟨started, rfl⟩⟩

/-- A process that stops while it starts a segment leaves one of these disks. -/
theorem rollDisks_cases {passed : Disk FileName} {calls : Nat}
    (found : (rollDisks env options layout disk inode metaInode)[calls]? = some passed) :
    passed = disk ∨ passed = cutDisk layout disk inode ∨
      (calls = 4 ∧ passed = namedDisk layout disk inode metaInode []) ∨
      passed = updatedDisk env layout disk inode metaInode ∨
      passed = createdDisk env layout disk inode metaInode ∨
      passed = startedDisk env options layout disk inode metaInode := by
  have within : calls < 12 := (List.getElem?_eq_some_iff.mp found).1
  interval_cases calls <;> obtain rfl := Option.some.inj found <;> simp

end Roll

/-- The options and the records fit once the segment in use is closed. -/
theorem Fits.roll (fits : Fits options layout tail) :
    Fits options layout.roll (List.replicate options.segmentMaxSize 0) where
  keyed entries member := by
    rcases List.mem_append.mp member with old | new
    · exact fits.keyed entries old
    · obtain rfl := List.mem_singleton.mp new
      exact fun entry inside => absurd inside (List.not_mem_nil)
  closed entries member := by
    rcases List.mem_append.mp member with old | new
    · exact fits.closed entries old
    · obtain rfl := List.mem_singleton.mp new
      have current := fits.current
      rw [List.length_append] at current
      omega
  current := by simp [Layout.roll]

namespace Laid

/-- A running store on the disk that a roll leaves. -/
theorem started (laid : Laid env options gone layout tail store files)
    (more : layout.closed.length + 1 < 2 ^ 32) (fresh : ¬ gone (layout.closed.length + 1))
    {inode metaInode : Nat} (open_ : OpenFiles gone layout tail store files inode metaInode)
    {after : Files FileName} (sound : after.Sound)
    (disk : after.toDisk = startedDisk env options layout files.toDisk inode metaInode)
    (inodes : after.inodes = Function.update (Function.update files.inodes store.curSegmentFd none)
      files.nextDescriptor (some files.nextInode)) :
    Laid env options gone layout.roll (List.replicate options.segmentMaxSize 0)
      { store with
        curSegmentId := segmentId (layout.closed.length + 1)
        curSegmentFd := files.nextDescriptor
        curSegmentFileSize := store.segmentMaxSize
        curSegmentOffset := 0 } after := by
  have length : layout.roll.closed.length = layout.closed.length + 1 := by simp [Layout.roll]
  have fresh' : ¬ gone layout.roll.closed.length := by rwa [length]
  have number := laid.archive.number
  have next : ∀ {id}, id ≠ segmentId (layout.closed.length + 1) →
      FileName.segment id ≠ layout.nextName := fun apart same => apart (FileName.segment.inj same)
  have distinct : segmentId layout.closed.length ≠ segmentId (layout.closed.length + 1) :=
    fun same => by
      have := segmentId_inj number more same
      omega
  have view : (startedDisk env options layout files.toDisk inode metaInode).view = _ :=
    startedDisk_view laid.sound.toSound
  rw [updatedDisk, namedDisk_view laid.sound.toSound open_.metaNamed,
    cutDisk_view laid.sound.toSound open_.linked open_.unnamed] at view
  have other : ∀ {id}, id ≠ segmentId (layout.closed.length + 1) →
      (startedDisk env options layout files.toDisk inode metaInode).view (.segment id) =
        Function.update files.view layout.currentName
          ((files.view layout.currentName).map fun _ => segmentBytes layout.current)
          (.segment id) := fun apart => by
    rw [view, Function.update_of_ne (next apart), Function.update_of_ne (by simp)]
  have cur : (startedDisk env options layout files.toDisk inode metaInode).view
      layout.currentName =
        (files.view layout.currentName).map fun _ => segmentBytes layout.current :=
    (other distinct).trans (Function.update_self ..)
  have metaOpened := open_.metaOpened
  have metaFd : store.metaFd ≠ store.curSegmentFd := fun same => by
    rw [same, open_.opened] at metaOpened
    exact open_.apart (Option.some.inj metaOpened).symm
  have metaFd' : store.metaFd ≠ files.nextDescriptor := fun same => by
    rw [same, laid.sound.unopened _ le_rfl] at metaOpened
    cases metaOpened
  constructor
  · exact sound
  · rw [disk]; exact laid.path
  · rw [disk]
    refine laid.archive.roll more ?_ (fun inUse => ?_) (fun cleaned => ?_) fun id apart apart' => ?_
    · rw [view, Function.update_of_ne (by simp [Layout.nextName]), Function.update_self,
        Option.getD_some, decodeMetadata_updated]
    · exact cur.trans (by rw [Disk.view_of_name (open_.linked inUse), Option.map_some])
    · exact cur.trans (by rw [(open_.unnamed cleaned).1, Option.map_none])
    · rw [other apart', Function.update_of_ne (segment_ne_current apart)]
  · exact laid.fits.roll
  · exact laid.keyLength
  · exact laid.maxSize
  · rw [length]
  · simp [Layout.roll]
  · simp [Layout.roll, laid.maxSize]
  · refine ⟨metaInode, ?_, ?_⟩
    · rw [inodes, Function.update_of_ne metaFd', Function.update_of_ne metaFd, metaOpened]
    · rw [disk]
      have differ : FileName.metadata ≠ layout.nextName := by simp [Layout.nextName]
      exact (Disk.created_names_of_ne _ differ).trans open_.metaNamed
  · refine ⟨files.nextInode, ?_, ?_, fun _ => ?_, fun cleaned => absurd cleaned fresh'⟩
    · rw [inodes, Function.update_self]
    · rw [disk]
      exact Disk.withContents_same ..
    · rw [disk, Layout.roll_currentName]
      exact Disk.created_names_self ..

/-- `Append` starts the next segment when the current one has no room. -/
theorem makeRoom_rolls (sized : options.Sized)
    (laid : Laid env options gone layout tail store files) {bufferLength : Nat}
    (full : tail.length < bufferLength) (small : bufferLength ≤ options.segmentMaxSize)
    (more : layout.closed.length + 1 < 2 ^ 32) (fresh : ¬ gone (layout.closed.length + 1))
    {inode metaInode : Nat} (open_ : OpenFiles gone layout tail store files inode metaInode) :
    ∃ store', Achieves (LogSegmentStore.makeRoom env store bufferLength) files
      (rollDisks env options layout files.toDisk inode metaInode) (true, store')
      (fun after => after.toDisk = startedDisk env options layout files.toDisk inode metaInode ∧
        Laid env options gone layout.roll (List.replicate options.segmentMaxSize 0) store'
          after) := by
  have maxSize := sized.small
  have full' := (laid.full_iff sized small).mpr full
  have next : store.curSegmentId + 1 = segmentId (layout.closed.length + 1) := by
    rw [laid.id, segmentId_succ]
  have missing : files.names (.segment (store.curSegmentId + 1)) = none := by
    rw [next]
    exact Disk.view_eq_none.mp (laid.archive.next_free more)
  have positive : 0 < store.segmentMaxSize := by rw [laid.maxSize]; exact sized.positive
  have rolls : Achieves (LogSegmentStore.makeRoom env store bufferLength) files _ _ _ :=
    LogSegmentStore.makeRoom_rolls laid.offset full' open_.opened open_.metaOpened open_.apart
      missing positive (by rw [laid.maxSize]; omega)
  have old : (LogSegmentStore.cutSegment store files inode
      (segmentBytes layout.current).length).contents metaInode = files.contents metaInode :=
    Disk.withContents_other _ open_.apart _
  simp only [LogSegmentStore.startedSegment, old, next, laid.maxSize] at rolls
  simp only [LogSegmentStore.cutSegment, open_.contents, resize_append_length] at rolls
  obtain ⟨after, performs, moved⟩ := rolls
  have cut := (laid.sound.withContents inode (segmentBytes layout.current)).closed
    store.curSegmentFd
  have sound : after.Sound := moved.unchanged.sound
    ((((cut.withContents _ _).created _).opened (Nat.lt_succ_self _)).withContents _ _)
  have running := laid.started more fresh open_ sound moved.disk (by simp [moved.open_])
  simp only [laid.maxSize] at running
  exact ⟨_, after, performs, moved.disk, running⟩

end Laid

end Paxosme
