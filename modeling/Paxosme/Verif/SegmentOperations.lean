import Paxosme.Verif.SegmentLayout

/-!
# The store as a list of records

`Append` puts a record where `Layout.place` says and returns the index of that place; `Read`
finds the record of every place by its index; `Init` comes from a disk to a running store with
the same records.
-/

namespace Paxosme

open Posix Bytes Framing

/-- A record and where it stands. -/
structure Placed where
  /-- The number of its segment. -/
  number : Nat
  /-- Where it starts in its segment. -/
  offset : Nat
  entry : Entry
  deriving DecidableEq, Repr

/-- The `SegmentIndex` of a record. -/
def Placed.index (env : Environment) (placed : Placed) : SegmentIndex :=
  LogSegmentStore.toSegmentIndex (segmentId placed.number) placed.offset
    (env.crc32 placed.entry.body).toNat

/-- The records of a segment, from an offset on. -/
def placedIn (number : Nat) : Nat → List Entry → List Placed
  | _, [] => []
  | offset, entry :: entries => ⟨number, offset, entry⟩ :: placedIn number (offset + entry.size) entries

theorem placedIn_append (number offset : Nat) (first second : List Entry) :
    placedIn number offset (first ++ second) = placedIn number offset first ++
      placedIn number (offset + (segmentBytes first).length) second := by
  induction first generalizing offset with
  | nil => simp [placedIn]
  | cons entry first ih =>
    rw [List.cons_append, placedIn, placedIn, ih, length_segmentBytes_cons, List.cons_append,
      Nat.add_assoc]

/-- Where a record of a segment stands, and what comes from it on. -/
theorem placedIn_split {number offset : Nat} {entries : List Entry} {early later : List Placed}
    {placed : Placed} (split : placedIn number offset entries = early ++ placed :: later) :
    placed.number = number ∧ ∃ before after, entries = before ++ placed.entry :: after ∧
      placed.offset = offset + (segmentBytes before).length ∧
      placed :: later = placedIn number placed.offset (placed.entry :: after) := by
  induction entries generalizing offset early with
  | nil => simp [placedIn] at split
  | cons entry entries ih =>
    rw [placedIn] at split
    cases early with
    | nil =>
      obtain ⟨rfl, rest⟩ := List.cons.inj split
      exact ⟨rfl, [], entries, rfl, by simp, by rw [← rest]; rfl⟩
    | cons first early =>
      obtain ⟨rfl, before, after, rfl, position, rest⟩ := ih (List.cons.inj split).2
      refine ⟨rfl, entry :: before, after, rfl, ?_, rest⟩
      rw [position, length_segmentBytes_cons]
      omega

/-- The records of segments, from the segment of a number on. -/
def placedOf (number : Nat) (segments : List (List Entry)) : List Placed :=
  (segments.zipIdx number).flatMap fun (entries, number) => placedIn number 0 entries

theorem placedOf_cons (number : Nat) (entries : List Entry) (segments : List (List Entry)) :
    placedOf number (entries :: segments) =
      placedIn number 0 entries ++ placedOf (number + 1) segments := by
  rw [placedOf, List.zipIdx_cons, List.flatMap_cons]
  rfl

/-- Where a record of some segments stands, and what comes from it on. -/
theorem placedOf_split {number : Nat} {segments : List (List Entry)} {early later : List Placed}
    {placed : Placed} (split : placedOf number segments = early ++ placed :: later) :
    ∃ i before after, placed.number = number + i ∧
      segments[i]? = some (before ++ placed.entry :: after) ∧
      placed.offset = (segmentBytes before).length ∧
      placed :: later = placedIn placed.number placed.offset (placed.entry :: after) ++
        placedOf (placed.number + 1) (segments.drop (i + 1)) := by
  induction segments generalizing number early with
  | nil => simp [placedOf] at split
  | cons entries segments ih =>
    rw [placedOf_cons] at split
    have further : ∀ rest, placedOf (number + 1) segments = rest ++ placed :: later →
        ∃ i before after, placed.number = number + i ∧
          (entries :: segments)[i]? = some (before ++ placed.entry :: after) ∧
          placed.offset = (segmentBytes before).length ∧
          placed :: later = placedIn placed.number placed.offset (placed.entry :: after) ++
            placedOf (placed.number + 1) ((entries :: segments).drop (i + 1)) := by
      intro rest split
      obtain ⟨i, before, after, at_, inside, position, rest⟩ := ih split
      exact ⟨i + 1, before, after, by omega, inside, position, rest⟩
    rcases List.append_eq_append_iff.mp split with ⟨rest, -, outside⟩ | ⟨rest, inside, behind⟩
    · exact further rest outside
    · cases rest with
      | nil => exact further [] behind.symm
      | cons first rest =>
        obtain ⟨rfl, rfl⟩ := List.cons.inj behind
        obtain ⟨rfl, before, after, rfl, position, found⟩ := placedIn_split inside
        refine ⟨0, before, after, rfl, rfl, by omega, ?_⟩
        rw [← found]
        rfl

theorem length_placedIn (number offset : Nat) (entries : List Entry) :
    (placedIn number offset entries).length = entries.length := by
  induction entries generalizing offset with
  | nil => rfl
  | cons entry entries ih => rw [placedIn, List.length_cons, ih, List.length_cons]

theorem length_placedOf (number : Nat) (segments : List (List Entry)) :
    (placedOf number segments).length = segments.flatten.length := by
  induction segments generalizing number with
  | nil => rfl
  | cons entries segments ih =>
    rw [placedOf_cons, List.length_append, length_placedIn, ih, List.flatten_cons,
      List.length_append]

namespace Layout

/-- The records of a store, in the order in which they were appended. -/
def placed (layout : Layout) : List Placed := placedOf 0 (layout.closed ++ [layout.current])

theorem placed_put (layout : Layout) (entry : Entry) :
    (layout.put entry).placed = layout.placed ++
      [⟨layout.closed.length, (segmentBytes layout.current).length, entry⟩] := by
  simp [placed, placedOf, put, List.zipIdx_append, placedIn_append, placedIn]

theorem placed_roll (layout : Layout) : layout.roll.placed = layout.placed := by
  simp [placed, placedOf, roll, List.zipIdx_append, placedIn]

/-- Where a record of a layout stands, and what comes from it on. -/
theorem placed_split {layout : Layout} {early later : List Placed} {placed : Placed}
    (split : layout.placed = early ++ placed :: later) :
    ∃ before after, (layout.closed ++ [layout.current])[placed.number]? =
        some (before ++ placed.entry :: after) ∧
      placed.offset = (segmentBytes before).length ∧
      placed :: later = placedIn placed.number placed.offset (placed.entry :: after) ++
        placedOf (placed.number + 1)
          ((layout.closed ++ [layout.current]).drop (placed.number + 1)) := by
  obtain ⟨i, before, after, at_, inside, position, rest⟩ := placedOf_split split
  rw [Nat.zero_add] at at_
  subst at_
  exact ⟨before, after, inside, position, rest⟩

/-- Where a record of a layout stands. -/
theorem of_mem_placed {layout : Layout} {placed : Placed} (member : placed ∈ layout.placed) :
    ∃ before after, (layout.closed ++ [layout.current])[placed.number]? =
      some (before ++ placed.entry :: after) ∧ placed.offset = (segmentBytes before).length := by
  obtain ⟨early, later, split⟩ := List.append_of_mem member
  obtain ⟨before, after, inside, position, -⟩ := placed_split split
  exact ⟨before, after, inside, position⟩

/-- A record more, in the segment in use when that has room for it and in the next one
otherwise. -/
def place (layout : Layout) (room : Nat) (entry : Entry) : Layout :=
  if entry.size ≤ room then layout.put entry else layout.roll.put entry

/-- The place of the record that comes next. -/
def spot (layout : Layout) (room : Nat) (entry : Entry) : Placed :=
  if entry.size ≤ room then ⟨layout.closed.length, (segmentBytes layout.current).length, entry⟩
  else ⟨layout.closed.length + 1, 0, entry⟩

@[simp] theorem spot_entry (layout : Layout) (room : Nat) (entry : Entry) :
    (layout.spot room entry).entry = entry := by
  rw [spot]
  split <;> rfl

/-- A record that is appended comes behind the others. -/
theorem placed_place (layout : Layout) (room : Nat) (entry : Entry) :
    (layout.place room entry).placed = layout.placed ++ [layout.spot room entry] := by
  rw [place, spot]
  split
  · exact placed_put ..
  · rw [placed_put, placed_roll]
    simp [roll]

end Layout

/-- The bytes behind the records of the segment in use once a record has been appended. -/
def tailOf (options : LogStorageOptions) (tail : List UInt8) (entry : Entry) : List UInt8 :=
  if entry.size ≤ tail.length then tail.drop entry.size
  else (List.replicate options.segmentMaxSize 0).drop entry.size

variable {env : Environment} {options : LogStorageOptions} {gone : Nat → Prop} {layout : Layout}
  {tail : List UInt8} {store : LogSegmentStore} {files : Files FileName}

/-- A record takes more than the eight bytes of its length. -/
theorem length_le_segmentBytes (entries : List Entry) :
    entries.length ≤ (segmentBytes entries).length := by
  induction entries with
  | nil => simp
  | cons entry entries ih =>
    rw [length_segmentBytes_cons, List.length_cons, Entry.size]
    omega

theorem segmentBytes_eq_nil {entries : List Entry} {tail : List UInt8} :
    segmentBytes entries ++ tail = [] ↔ entries = [] ∧ tail = [] := by
  rw [List.append_eq_nil_iff, ← List.length_eq_zero_iff]
  have length := length_le_segmentBytes entries
  constructor
  · rintro ⟨empty, rfl⟩
    exact ⟨List.length_eq_zero_iff.mp (by omega), rfl⟩
  · rintro ⟨rfl, rfl⟩
    exact ⟨rfl, rfl⟩

/-- The records of the segments that have not been cleaned can be read. -/
structure Readable (options : LogStorageOptions) (gone : Nat → Prop) (layout : Layout)
    (tail : List UInt8) (store : LogSegmentStore) (files : Files FileName) : Prop where
  sound : files.Sound
  fits : Fits options layout tail
  keyLength : store.indexKeyLength = options.indexKeyLength
  file : ∀ number entries, (layout.closed ++ [layout.current])[number]? = some entries →
    ¬ gone number → ∃ inode, files.names (.segment (segmentId number)) = some inode ∧
      files.contents inode = segmentBytes entries ++
        if number < layout.closed.length then [] else tail

/-- The records of a running store can be read. -/
theorem Laid.readable (laid : Laid env options gone layout tail store files) :
    Readable options gone layout tail store files where
  sound := laid.sound
  fits := laid.fits
  keyLength := laid.keyLength
  file number entries found present := by
    rcases Nat.lt_or_ge number layout.closed.length with below | above
    · rw [List.getElem?_append_left below] at found
      obtain ⟨inode, named, contents⟩ :=
        Disk.name_of_view (laid.archive.kept number entries found present)
      exact ⟨inode, named, by rw [if_pos below, List.append_nil]; exact contents⟩
    · have inside := (List.getElem?_eq_some_iff.mp found).1
      rw [List.length_append, List.length_singleton] at inside
      obtain rfl : number = layout.closed.length := by omega
      obtain rfl : layout.current = entries := by simpa using found
      obtain ⟨inode, -, contents, linked, -⟩ := laid.curOpen
      exact ⟨inode, linked present, by rw [if_neg (by omega)]; exact contents⟩

/-! ## `Read` -/

namespace Readable

/-- The bytes of a segment that has not been cleaned. -/
theorem view (readable : Readable options gone layout tail store files) {number : Nat}
    {entries : List Entry} (found : (layout.closed ++ [layout.current])[number]? = some entries)
    (present : ¬ gone number) :
    files.view (.segment (segmentId number)) =
      some (segmentBytes entries ++ if number < layout.closed.length then [] else tail) := by
  obtain ⟨inode, named, contents⟩ := readable.file number entries found present
  rw [Disk.view_of_name named, contents]

/-- The records can be read wherever the segments have the same bytes. -/
theorem congr (readable : Readable options gone layout tail store files)
    {store' : LogSegmentStore} {after : Files FileName} (sound : after.Sound)
    (keyLength : store'.indexKeyLength = options.indexKeyLength)
    (same : ∀ id, after.view (.segment id) = files.view (.segment id)) :
    Readable options gone layout tail store' after where
  sound := sound
  fits := readable.fits
  keyLength := keyLength
  file number entries found present := by
    have view := (same (segmentId number)).trans (readable.view found present)
    exact Disk.name_of_view view

/-- Reading leaves the records readable. -/
theorem unchanged {after : Files FileName} (readable : Readable options gone layout tail store files)
    (same : files.Unchanged after) : Readable options gone layout tail store after where
  sound := same.sound readable.sound
  fits := readable.fits
  keyLength := readable.keyLength
  file := by rw [same.disk]; exact readable.file

/-- The file that a record stands in, from the record on. -/
theorem record_file (readable : Readable options gone layout tail store files) {number : Nat}
    {before after : List Entry} {entry : Entry}
    (found : (layout.closed ++ [layout.current])[number]? = some (before ++ entry :: after))
    (present : ¬ gone number) :
    ∃ inode, files.names (.segment (segmentId number)) = some inode ∧
      (files.contents inode).drop (segmentBytes before).length = frame 8 entry.body ++
        (segmentBytes after ++ if number < layout.closed.length then [] else tail) ∧
      (files.contents inode).length ≤ options.segmentMaxSize := by
  obtain ⟨inode, named, contents⟩ := readable.file number _ found present
  refine ⟨inode, named, ?_, ?_⟩
  · rw [contents, segmentBytes_append, List.append_assoc, List.drop_left, segmentBytes_cons,
      List.append_assoc]
  · rw [contents]
    split
    · rw [List.append_nil]
      exact readable.fits.bounded (List.mem_of_getElem? found)
    · have inside := (List.getElem?_eq_some_iff.mp found).1
      rw [List.length_append, List.length_singleton] at inside
      obtain rfl : number = layout.closed.length := by omega
      obtain same : layout.current = _ := by simpa using found
      rw [← same]
      exact readable.fits.current

/-- `ParseSegmentIndex` of the index of a record. -/
theorem parse_placed (env : Environment) (sized : options.Sized)
    (readable : Readable options gone layout tail store files) {placed : Placed}
    (member : placed ∈ layout.placed) :
    LogSegmentStore.parseSegmentIndex (placed.index env) =
      (segmentId placed.number, (placed.offset : Int), (env.crc32 placed.entry.body).toNat) := by
  obtain ⟨before, after, inside, position⟩ := Layout.of_mem_placed member
  have bound := readable.fits.bounded (List.mem_of_getElem? inside)
  have small := sized.small
  have checksum := (env.crc32 placed.entry.body).toNat_lt
  rw [segmentBytes_append, List.length_append] at bound
  exact LogSegmentStore.parseSegmentIndex_toSegmentIndex _ (by omega) (by omega)

/-- `Read` finds every record that has not been cleaned by its index. -/
theorem read_placed (sized : options.Sized)
    (readable : Readable options gone layout tail store files) {placed : Placed}
    (member : placed ∈ layout.placed) (present : ¬ gone placed.number) :
    Completes (LogSegmentStore.read env store (placed.index env)) files
      (some (placed.entry.key, placed.entry.value)) files.Unchanged := by
  obtain ⟨before, after, found, position⟩ := Layout.of_mem_placed member
  obtain ⟨inode, named, record, -⟩ := readable.record_file found present
  have inside := List.mem_of_getElem? found
  have keyed : placed.entry.key.length = options.indexKeyLength :=
    readable.fits.keyed _ inside _ (by simp)
  have bound := readable.fits.bounded inside
  have small := sized.small
  rw [segmentBytes_append, List.length_append, length_segmentBytes_cons, Entry.size,
    Entry.body] at bound
  rw [← position] at record
  exact LogSegmentStore.read_record readable.sound named record (keyed.trans readable.keyLength.symm)
    (by omega) (by omega)

/-! ## `RemoveAsync` -/

/-- `RemoveAsync` has a segment cleaned when its file ends behind the record. -/
theorem removeAsync_placed (sized : options.Sized)
    (readable : Readable options gone layout tail store files) {number : Nat}
    {before after : List Entry} {entry : Entry}
    (found : (layout.closed ++ [layout.current])[number]? = some (before ++ entry :: after))
    (present : ¬ gone number) :
    Completes (LogSegmentStore.removeAsync
        (Placed.index env ⟨number, (segmentBytes before).length, entry⟩)) files
      (true, if after = [] ∧ (number < layout.closed.length ∨ tail = []) then [segmentId number]
        else []) files.Unchanged := by
  obtain ⟨inode, named, record, bound⟩ := readable.record_file found present
  have small := sized.small
  have checksum : (env.crc32 entry.body).toNat < 2 ^ 64 := by
    have := (env.crc32 entry.body).toNat_lt
    omega
  have last : (segmentBytes after ++ if number < layout.closed.length then [] else tail) = [] ↔
      after = [] ∧ (number < layout.closed.length ∨ tail = []) := by
    rw [segmentBytes_eq_nil]
    refine and_congr_right fun _ => ?_
    split
    · rename_i below
      simp [below]
    · rename_i inUse
      simp [inUse]
  have removed : Completes (LogSegmentStore.removeAsync _) files _ files.Unchanged :=
    LogSegmentStore.removeAsync_record readable.sound named record (by omega) checksum
  rw [if_congr last rfl rfl] at removed
  exact removed

end Readable

/-- A store that has used up the numbers: the metadata file names the first segment again, and the
segment in use is cut behind its records and closed. -/
structure Spent (env : Environment) (options : LogStorageOptions) (gone : Nat → Prop)
    (layout : Layout) (store : LogSegmentStore) (files : Files FileName) : Prop where
  all : layout.closed.length + 1 = 2 ^ 32
  closed : files.inodes store.curSegmentFd = none
  inside : 0 ≤ store.curSegmentOffset
  id : store.curSegmentId = segmentId 0
  path : files.path ≠ .other
  metadata : decodeMetadata env ((files.view .metadata).getD []) = some (segmentId 0)
  readable : Readable options gone layout [] store files

/-- Reading changes nothing. -/
theorem Spent.unchanged {after : Files FileName} (spent : Spent env options gone layout store files)
    (same : files.Unchanged after) : Spent env options gone layout store after where
  all := spent.all
  closed := by rw [same.open_]; exact spent.closed
  inside := spent.inside
  id := spent.id
  path := by rw [same.disk]; exact spent.path
  metadata := by rw [same.disk]; exact spent.metadata
  readable := spent.readable.unchanged same

/-- What is copied of a key has the length of the keys. -/
theorem length_of_copies {entry : Entry} {key : List UInt8}
    (copies : env.copied (key ++ [0]) options.indexKeyLength = entry.key) :
    entry.key.length = options.indexKeyLength := by
  rw [← copies, Environment.length_copied]

namespace Laid

/-! ## `Append` -/

theorem append_small (laid : Laid env options gone layout tail store files) {entry : Entry}
    (keyed : entry.key.length = options.indexKeyLength) (small : entry.size ≤ options.segmentMaxSize)
    (key : List UInt8) :
    LogSegmentStore.append env store key entry.value =
      LogSegmentStore.makeRoom env store entry.size >>= fun result =>
        if !result.1 then pure (none, result.2)
        else LogSegmentStore.writeRecord env result.2 key entry.value := by
  have length : 8 + (store.indexKeyLength + entry.value.length) = entry.size := by
    rw [laid.keyLength, ← keyed, Entry.size, Entry.body, List.length_append]
  rw [LogSegmentStore.append, length, if_neg (by rw [laid.maxSize]; omega)]

/-- `Append` does nothing with a record that no segment holds. -/
theorem append_big (laid : Laid env options gone layout tail store files) {entry : Entry}
    (keyed : entry.key.length = options.indexKeyLength) (big : options.segmentMaxSize < entry.size)
    (key : List UInt8) :
    LogSegmentStore.append env store key entry.value = pure (none, store) := by
  have length : 8 + (store.indexKeyLength + entry.value.length) = entry.size := by
    rw [laid.keyLength, ← keyed, Entry.size, Entry.body, List.length_append]
  rw [LogSegmentStore.append, length, if_pos (by rw [laid.maxSize]; exact big)]

/-- `Append` of a record that the segment in use holds. -/
theorem append_put (sized : options.Sized) (laid : Laid env options gone layout tail store files)
    {entry : Entry} {key : List UInt8}
    (copies : env.copied (key ++ [0]) options.indexKeyLength = entry.key)
    (room : entry.size ≤ tail.length) :
    ∃ store', Achieves (LogSegmentStore.append env store key entry.value) files
      [files.toDisk, files.toDisk]
      (some ((layout.spot tail.length entry).index env), store')
      (Laid env options gone (layout.put entry) (tail.drop entry.size) store') := by
  have bound := laid.fits.current
  rw [List.length_append] at bound
  rw [laid.append_small (length_of_copies copies) (by omega)]
  obtain ⟨middle, made, moved⟩ := laid.makeRoom_fits sized room
  obtain ⟨store', after, written, laid'⟩ :=
    (laid.unchanged moved.unchanged).writeRecord_put copies room
  rw [moved.disk] at written
  rw [Layout.spot, if_pos room]
  exact ⟨store', after, made.bind written, laid'⟩

/-- `Append` of a record that goes to the next segment. -/
theorem append_rolls (sized : options.Sized)
    (laid : Laid env options gone layout tail store files) {entry : Entry} {key : List UInt8}
    (copies : env.copied (key ++ [0]) options.indexKeyLength = entry.key)
    (full : tail.length < entry.size)
    (small : entry.size ≤ options.segmentMaxSize) (more : layout.closed.length + 1 < 2 ^ 32)
    (fresh : ¬ gone (layout.closed.length + 1)) {inode metaInode : Nat}
    (open_ : OpenFiles gone layout tail store files inode metaInode) :
    let last := startedDisk env options layout files.toDisk inode metaInode
    ∃ store', Achieves (LogSegmentStore.append env store key entry.value) files
      (rollDisks env options layout files.toDisk inode metaInode ++ [last, last])
      (some ((layout.spot tail.length entry).index env), store')
      (Laid env options gone (layout.roll.put entry)
        ((List.replicate options.segmentMaxSize 0).drop entry.size) store') := by
  intro last
  rw [laid.append_small (length_of_copies copies) small]
  obtain ⟨middle, files', made, disk, laid'⟩ :=
    laid.makeRoom_rolls sized full small more fresh open_
  obtain ⟨store', after, written, laid''⟩ :=
    laid'.writeRecord_put copies (by rw [List.length_replicate]; exact small)
  rw [disk] at written
  rw [Layout.spot, if_neg (by omega)]
  have index : LogSegmentStore.toSegmentIndex (segmentId layout.roll.closed.length)
      (segmentBytes layout.roll.current).length (env.crc32 entry.body).toNat =
        (⟨layout.closed.length + 1, 0, entry⟩ : Placed).index env := by
    simp [Placed.index, Layout.roll]
  rw [index] at written
  exact ⟨store', after, made.bind written, laid''⟩

/-- `Append` of a record that a segment holds puts it behind the others. -/
theorem append_stores (sized : options.Sized)
    (laid : Laid env options gone layout tail store files) {entry : Entry} {key : List UInt8}
    (copies : env.copied (key ++ [0]) options.indexKeyLength = entry.key)
    (small : entry.size ≤ options.segmentMaxSize)
    (more : tail.length < entry.size → layout.closed.length + 1 < 2 ^ 32)
    (fresh : ¬ gone (layout.closed.length + 1)) :
    ∃ store', Completes (LogSegmentStore.append env store key entry.value) files
      (some ((layout.spot tail.length entry).index env), store')
      (Laid env options gone (layout.place tail.length entry) (tailOf options tail entry)
        store') := by
  rw [Layout.place, tailOf]
  rcases Nat.lt_or_ge tail.length entry.size with full | room
  · rw [if_neg (by omega), if_neg (by omega)]
    obtain ⟨_, _, open_⟩ := laid.openFiles
    obtain ⟨store', achieves⟩ :=
      laid.append_rolls sized copies full small (more full) fresh open_
    exact ⟨store', _, achieves⟩
  · rw [if_pos room, if_pos room]
    obtain ⟨store', achieves⟩ := laid.append_put sized copies room
    exact ⟨store', _, achieves⟩

/-- The name of the next segment is taken once the numbers are used up. -/
theorem more_of_missing (laid : Laid env options gone layout tail store files)
    (present : ¬ gone 0)
    (missing : files.names (.segment (store.curSegmentId + 1)) = none) :
    layout.closed.length + 1 < 2 ^ 32 := by
  by_contra last
  have number := laid.archive.number
  have all : layout.closed.length + 1 = 2 ^ 32 := by omega
  obtain ⟨entries, first⟩ : ∃ entries, layout.closed[0]? = some entries :=
    ⟨_, List.getElem?_eq_getElem (by omega)⟩
  obtain ⟨found, named, -⟩ := Disk.name_of_view (laid.archive.kept 0 entries first present)
  have next : store.curSegmentId + 1 = segmentId 0 := by
    rw [laid.id, ← segmentId_succ, all]
    decide
  rw [next, named] at missing
  cases missing

/-- The segments of a store whose segment in use has been cut behind its records. -/
theorem updated_view (laid : Laid env options gone layout tail store files) {inode metaInode : Nat}
    (open_ : OpenFiles gone layout tail store files inode metaInode) {number : Nat}
    {entries : List Entry} (found : (layout.closed ++ [layout.current])[number]? = some entries)
    (present : ¬ gone number) :
    (updatedDisk env layout files.toDisk inode metaInode).view (.segment (segmentId number)) =
      some (segmentBytes entries) := by
  have bound := laid.archive.number
  rw [updatedDisk, namedDisk_view laid.sound.toSound open_.metaNamed,
    Function.update_of_ne (by simp), cutDisk_view laid.sound.toSound open_.linked open_.unnamed]
  rcases Nat.lt_or_ge number layout.closed.length with below | above
  · rw [List.getElem?_append_left below] at found
    have apart : segmentId number ≠ segmentId layout.closed.length := fun same => by
      have := segmentId_inj (by omega) bound same
      omega
    rw [Function.update_of_ne (segment_ne_current apart)]
    exact laid.archive.kept number entries found present
  · have inside := (List.getElem?_eq_some_iff.mp found).1
    rw [List.length_append, List.length_singleton] at inside
    obtain rfl : number = layout.closed.length := by omega
    obtain rfl : layout.current = entries := by simpa using found
    have named : files.view layout.currentName = some _ := Disk.view_of_name (open_.linked present)
    rw [← Layout.currentName, Function.update_self, named]
    rfl

/-- `Append` fails once the number of the next segment is that of the first one again, and leaves
the segment in use closed. -/
theorem append_wraps (sized : options.Sized)
    (laid : Laid env options gone layout tail store files) {entry : Entry} {key : List UInt8}
    (copies : env.copied (key ++ [0]) options.indexKeyLength = entry.key)
    (full : tail.length < entry.size) (small : entry.size ≤ options.segmentMaxSize)
    (last : layout.closed.length + 1 = 2 ^ 32) (present : ¬ gone 0) :
    Completes (LogSegmentStore.append env store key entry.value) files
      (none, { store with curSegmentId := segmentId 0 })
      (Spent env options gone layout { store with curSegmentId := segmentId 0 }) := by
  have there : (files.names (.segment (store.curSegmentId + 1))).isSome := by
    by_contra missing
    have more := laid.more_of_missing present (by simpa using missing)
    omega
  obtain ⟨inode, metaInode, open_⟩ := laid.openFiles
  have next : store.curSegmentId + 1 = segmentId (layout.closed.length + 1) := by
    rw [laid.id, segmentId_succ]
  have first : segmentId (layout.closed.length + 1) = segmentId 0 := by
    rw [last]
    decide
  rw [laid.append_small (length_of_copies copies) small]
  refine (LogSegmentStore.makeRoom_exists laid.offset ((laid.full_iff sized small).mpr full)
    open_.opened open_.metaOpened open_.apart there).bind fun after moved => ?_
  rw [if_pos (by simp), next, first]
  have disk : after.toDisk = updatedDisk env layout files.toDisk inode metaInode := by
    rw [moved.disk, next]
    simp only [LogSegmentStore.cutSegment, open_.contents, resize_append_length]
    rfl
  have sound : after.Sound := moved.unchanged.sound
    (((laid.sound.withContents inode _).closed store.curSegmentFd).withContents _ _)
  refine Completes.pure _ ?_
  constructor
  · exact last
  · rw [moved.open_]
    simp [LogSegmentStore.cutSegment]
  · change 0 ≤ store.curSegmentOffset
    rw [laid.offset]
    omega
  · rfl
  · rw [disk]
    exact laid.path
  · rw [disk, updatedDisk, namedDisk_view laid.sound.toSound open_.metaNamed,
      Function.update_self, Option.getD_some, decodeMetadata_updated, first]
  · refine ⟨sound, laid.fits.fewer (Nat.zero_le _), laid.keyLength, ?_⟩
    intro number entries found present
    have view : (updatedDisk env layout files.toDisk inode metaInode).view _ = _ :=
      laid.updated_view open_ found present
    rw [← disk] at view
    obtain ⟨found, named, contents⟩ := Disk.name_of_view view
    exact ⟨found, named, by rw [ite_self, List.append_nil]; exact contents⟩

end Laid

/-! ## `DeleteSegment` -/

/-- A segment may be cleaned. -/
theorem Archive.without {closed : List (List Entry)} {view : FileName → Option (List UInt8)}
    (archive : Archive env gone closed view) {number : Nat} (inside : number ≤ closed.length) :
    Archive env (fun n => gone n ∨ n = number) closed
      (Function.update view (.segment (segmentId number)) none) := by
  have bound := archive.number
  have apart : ∀ n ≤ closed.length, n ≠ number →
      FileName.segment (segmentId n) ≠ .segment (segmentId number) := by
    intro n within differ same
    exact differ (segmentId_inj (by omega) (by omega) (FileName.segment.inj same))
  constructor
  · exact bound
  · rw [Function.update_of_ne (by simp)]
    exact archive.metadata
  · intro n entries found present
    have below := (List.getElem?_eq_some_iff.mp found).1
    rw [Function.update_of_ne (apart n (by omega) fun same => present (.inr same))]
    exact archive.kept n entries found fun absent => present (.inl absent)
  · intro n below cleaned
    by_cases same : n = number
    · rw [same, Function.update_self]
    · rw [Function.update_of_ne (apart n (by omega) same)]
      exact archive.cleaned n below (cleaned.resolve_right same)
  · intro id free
    rw [Function.update_of_ne fun same => free number inside (FileName.segment.inj same)]
    exact archive.beyond id free

/-- `DeleteSegment` cleans a segment that has its file, the one in use only when no byte is behind
its records. -/
theorem Laid.deleteSegment (laid : Laid env options gone layout tail store files) {number : Nat}
    (inside : number ≤ layout.closed.length) (present : ¬ gone number)
    (cut : number = layout.closed.length → tail = []) :
    Completes (LogSegmentStore.deleteSegment (segmentId number)) files true
      (Laid env options (fun n => gone n ∨ n = number) layout tail store) := by
  obtain ⟨entries, found⟩ : ∃ entries,
      (layout.closed ++ [layout.current])[number]? = some entries :=
    ⟨_, List.getElem?_eq_getElem (by rw [List.length_append, List.length_singleton]; omega)⟩
  obtain ⟨deleted, named, -⟩ := laid.readable.file number entries found present
  have view := files.toDisk.view_without (.segment (segmentId number))
  refine ⟨_, _, Performs.remove named, ?_⟩
  constructor
  · exact laid.sound.removed _
  · exact laid.path
  · rw [view]
    exact laid.archive.without inside
  · exact laid.fits
  · exact laid.keyLength
  · exact laid.maxSize
  · exact laid.id
  · exact laid.offset
  · exact laid.fileSize
  · obtain ⟨metaInode, metaOpened, metaNamed⟩ := laid.metaOpen
    exact ⟨metaInode, metaOpened, (Disk.without_names_of_ne _ (by simp)).trans metaNamed⟩
  · obtain ⟨inode, opened, contents, linked, unlinked⟩ := laid.curOpen
    refine ⟨inode, opened, contents, fun kept => ?_, fun absent => ?_⟩
    · have apart : layout.currentName ≠ .segment (segmentId number) := fun same => by
        have bound := laid.archive.number
        exact kept (.inr (segmentId_inj bound (by omega) (FileName.segment.inj same)))
      exact (Disk.without_names_of_ne _ apart).trans (linked fun absent => kept (.inl absent))
    · by_cases old : gone layout.closed.length
      · obtain ⟨empty, unseen, unnamed⟩ := unlinked old
        refine ⟨empty, ?_, fun name found => unnamed name (Disk.names_of_without found).2⟩
        refine Disk.view_eq_none.mpr ?_
        rw [Disk.without_names_of_ne]
        · exact Disk.view_eq_none.mp unseen
        · intro same
          have bound := laid.archive.number
          rw [segmentId_inj bound (by omega) (FileName.segment.inj same)] at old
          exact present old
      · have equal : layout.closed.length = number := absent.resolve_left old
        have here : layout.currentName = .segment (segmentId number) := by
          rw [Layout.currentName, equal]
        refine ⟨cut equal.symm, ?_, fun name found => ?_⟩
        · exact (congrFun view _).trans (by rw [here, Function.update_self])
        · obtain ⟨differ, there⟩ := Disk.names_of_without found
          exact differ ((laid.sound.single name _ inode there (linked old)).trans here)

/-! ## `Init` -/

/-- The bytes behind the records once `Init` is done: an empty file has been filled with zeros. -/
def openedTail (options : LogStorageOptions) (layout : Layout) (tail : List UInt8) : List UInt8 :=
  if layout.current = [] ∧ tail = [] then List.replicate options.segmentMaxSize 0 else tail

/-- A store once `Init` has opened its segment. -/
def openedStore (options : LogStorageOptions) (layout : Layout) (tail : List UInt8)
    (store : LogSegmentStore) (fd : FD) : LogSegmentStore :=
  { store with
    curSegmentFd := fd
    curSegmentOffset := (segmentBytes layout.current).length
    curSegmentFileSize := (segmentBytes layout.current ++ tail).length
    segmentMaxSize := options.segmentMaxSize
    cleaning := options.removeAsync }

/-- The directory is there once `Init` has looked for it. -/
theorem createIfNotExists_performs (path : files.path ≠ .other) :
    Completes LogSegmentStore.createIfNotExists files true
      (· = { files with path := .directory }) := by
  refine Performs.stat.andThen ?_
  cases kind : files.path with
  | absent => exact ⟨_, _, Performs.mkdir kind, rfl⟩
  | directory =>
    refine Completes.pure _ ?_
    rw [← kind]
  | other => exact absurd kind path

theorem Fits.opened (fits : Fits options layout tail) :
    Fits options layout (openedTail options layout tail) where
  keyed := fits.keyed
  closed := fits.closed
  current := by
    rw [openedTail]
    split
    · rename_i empty
      simp [empty.1]
    · exact fits.current

/-- The records of the segment in use can be told from the bytes behind them. -/
theorem Fits.framed (fits : Fits options layout tail) (sized : options.Sized) :
    ∀ body ∈ layout.current.map Entry.body, Framed 8 body := by
  intro body member
  obtain ⟨entry, inside, rfl⟩ := List.mem_map.mp member
  obtain ⟨before, after, split⟩ := List.append_of_mem inside
  have keyed := fits.keyed layout.current (by simp) entry inside
  have bound := fits.bounded (show layout.current ∈ layout.closed ++ [layout.current] by simp)
  rw [split, segmentBytes_append, segmentBytes_cons] at bound
  simp only [List.length_append] at bound
  exact framed_body sized keyed (by omega)

/-- The files once `Init` has its directory and has opened the metadata file. -/
structure MetadataOpened (files : Files FileName) (metaFd : FD) (inode : Nat)
    (after : Files FileName) : Prop where
  sound : after.Sound
  path : after.path = .directory
  view : after.view = Function.update files.view .metadata
    (some ((files.view .metadata).getD []))
  opened : after.inodes metaFd = some inode
  named : after.names .metadata = some inode

/-- `Init` reads the metadata file and goes on with what it names: what is to be shown of it has to
be shown of the rest, if a program has it once the program behind one that completes has it. -/
theorem init_through {fuel : Nat}
    (goal : Sys FileName (Bool × LogSegmentStore) → Files FileName → Prop)
    (carries : ∀ {α : Type} {first : Sys FileName α} {next : α → Sys FileName (Bool × LogSegmentStore)}
      {files : Files FileName} {value : α} {mid : Files FileName → Prop},
      Completes first files value mid → (∀ middle, mid middle → goal (next value) middle) →
        goal (first >>= next) files)
    (keys : 0 < options.indexKeyLength) (sound : files.Sound) (path : files.path ≠ .other)
    (rest : ∀ (store : LogSegmentStore) (after : Files FileName) (inode : Nat),
      store.indexKeyLength = options.indexKeyLength →
      MetadataOpened files store.metaFd inode after →
      goal (match decodeMetadata env ((files.view .metadata).getD []) with
        | none => pure (false, store)
        | some curSegmentId =>
          LogSegmentStore.openCurrent env fuel { store with curSegmentId } options) after) :
    goal (LogSegmentStore.init env fuel {} options) files := by
  rw [LogSegmentStore.init, if_neg (by simp), if_neg (Nat.ne_of_gt keys)]
  refine carries (createIfNotExists_performs path) fun placed same => ?_
  rw [if_neg (by simp)]
  have sound' : placed.Sound := by
    rw [same]
    exact ⟨⟨sound.named, sound.single⟩, sound.unopened, sound.failed, sound.opens⟩
  have view : placed.view = files.view := by
    rw [same]
    rfl
  refine carries (sound'.openFile_create .metadata) fun middle found => ?_
  obtain ⟨inode, opened⟩ := found
  dsimp only
  rw [if_neg (natCast_ne_failed _)]
  refine carries (Performs.lseek opened.start 0).completes fun positioned reached => ?_
  rw [reached, if_neg (by omega)]
  have start : (middle.withDescriptor placed.nextDescriptor (some ⟨inode, 0⟩)).descriptors
      placed.nextDescriptor = some ⟨inode, 0⟩ := Files.descriptor_self
  refine carries (LogSegmentStore.readMetadata_decode start) fun after moved => ?_
  have here : middle.inodes placed.nextDescriptor = some inode := by
    rw [opened.open_, Function.update_self]
  have final := (Files.moved_of_inode here 0).trans moved
  rw [Files.withDescriptor_toDisk, opened.contents, view]
  refine rest _ after inode rfl ⟨final.unchanged.sound opened.sound, ?_, ?_, ?_, ?_⟩
  · rw [final.disk, opened.path, same]
  · rw [final.disk, opened.view, view]
  · rw [final.open_]
    exact here
  · rw [final.disk]
    exact opened.named

/-- `Init` completes when what comes behind the metadata file completes. -/
theorem init_decodes {fuel : Nat} {β : Type} {wrap : β → Bool × LogSegmentStore}
    {posts : β → Files FileName → Prop} (keys : 0 < options.indexKeyLength) (sound : files.Sound)
    (path : files.path ≠ .other)
    (rest : ∀ (store : LogSegmentStore) (after : Files FileName) (inode : Nat),
      store.indexKeyLength = options.indexKeyLength →
      MetadataOpened files store.metaFd inode after →
      ∃ last, Completes (match decodeMetadata env ((files.view .metadata).getD []) with
        | none => pure (false, store)
        | some curSegmentId =>
          LogSegmentStore.openCurrent env fuel { store with curSegmentId } options) after
        (wrap last) (posts last)) :
    ∃ last, Completes (LogSegmentStore.init env fuel {} options) files (wrap last)
      (posts last) :=
  init_through (fun program files => ∃ last, Completes program files (wrap last) (posts last))
    (fun completes => completes.bind_exists) keys sound path rest

/-- The end of `Init` on a segment whose file holds bytes. -/
theorem openCurrent_filled (sound : files.Sound) {fuel inode : Nat} {entries : List Entry}
    (named : files.names (.segment store.curSegmentId) = some inode)
    (contents : files.contents inode = segmentBytes entries ++ tail)
    (filled : segmentBytes entries ++ tail ≠ [])
    (framed : ∀ body ∈ entries.map Entry.body, Framed 8 body) (ends : Ends 8 tail)
    (short : (segmentBytes entries).length < 2 ^ 31)
    (small : (segmentBytes entries ++ tail).length < 2 ^ 64) (enough : entries.length < fuel) :
    Completes (LogSegmentStore.openCurrent env fuel store options) files
      (true, { store with
        curSegmentFd := files.nextDescriptor
        curSegmentOffset := (segmentBytes entries).length
        curSegmentFileSize := (segmentBytes entries ++ tail).length
        segmentMaxSize := options.segmentMaxSize
        cleaning := options.removeAsync })
      (files.opened inode).Unchanged := by
  have opened := sound.openedAs_found named
  have here : (files.opened inode).inodes files.nextDescriptor = some inode := by
    rw [opened.open_, Function.update_self]
  have contents' : (files.opened inode).contents inode = segmentBytes entries ++ tail := contents
  have pad : Achieves (LogSegmentStore.paddingIfNewSegment { store with
      curSegmentFd := files.nextDescriptor, segmentMaxSize := options.segmentMaxSize })
      (files.opened inode) _ _ _ :=
    LogSegmentStore.paddingIfNewSegment_old here (by rw [contents']; exact filled)
      (by rw [contents']; omega)
  obtain ⟨padded, pad, moved⟩ := pad
  rw [LogSegmentStore.openCurrent, LogSegmentStore.openSegment]
  refine (Performs.openFile named true).andThen ?_
  rw [if_neg (natCast_ne_failed _)]
  refine pad.andThen ?_
  dsimp only
  rw [if_neg (by omega), if_neg (by omega)]
  have found : padded.names (.segment store.curSegmentId) = some inode := by
    rw [moved.disk]
    exact named
  have records : (padded.contents inode).drop 0 = frames 8 (entries.map Entry.body) ++ tail := by
    rw [moved.disk, List.drop_zero]
    exact contents
  have replay : ∀ scanned : LogSegmentStore,
      Completes (scanned.replaySegment env store.curSegmentId fuel 0) padded
        (true, ((0 + (segmentBytes entries).length : Nat) : Int)) padded.Unchanged :=
    fun scanned => LogSegmentStore.replaySegment_frames (moved.unchanged.sound opened.sound)
      found records framed ends (by rw [Nat.zero_add]; exact short)
      (by rw [List.length_map]; exact enough)
  refine (replay _).bind fun after same => ?_
  rw [contents', Nat.zero_add]
  exact Completes.pure _ (moved.unchanged.trans same)

/-- `Init` fails when the metadata file does not name a segment. -/
theorem init_refuses {fuel : Nat} (keys : 0 < options.indexKeyLength) (sound : files.Sound)
    (path : files.path ≠ .other)
    (refused : decodeMetadata env ((files.view .metadata).getD []) = none) :
    ∃ store, Completes (LogSegmentStore.init env fuel {} options) files (false, store)
      fun _ => True := by
  refine init_decodes keys sound path fun store after inode _ _ => ⟨store, ?_⟩
  rw [refused]
  exact Completes.pure _ trivial

namespace Stored

/-- The files of a store with its directory and its metadata file in place. -/
theorem metadata_opened (stored : Stored env options gone layout tail files.toDisk)
    {metaFd : FD} {inode : Nat} {after : Files FileName}
    (opened : MetadataOpened files metaFd inode after) :
    Stored env options gone layout tail after.toDisk := by
  constructor
  · exact opened.sound.toSound
  · rw [opened.path]
    decide
  · rw [opened.view]
    refine stored.archive.congr ?_ fun id _ => Function.update_of_ne (by simp) ..
    rw [Function.update_self, Option.getD_some]
    exact stored.archive.metadata
  · exact stored.fits
  · exact stored.inUse
  · rw [opened.view, Function.update_of_ne (metadata_ne_current layout).symm]
    exact stored.current

/-- A store runs once its fields and its open files agree with the disk. -/
theorem running {disk : Disk FileName} (stored : Stored env options gone layout tail disk)
    {tail' : List UInt8} {after : Files FileName} (sound : after.Sound)
    (path : after.path = disk.path)
    (view : after.view = Function.update disk.view layout.currentName
      (some (segmentBytes layout.current ++ tail')))
    (fits : Fits options layout tail') (keyLength : store.indexKeyLength = options.indexKeyLength)
    (maxSize : store.segmentMaxSize = options.segmentMaxSize)
    (id : store.curSegmentId = segmentId layout.closed.length)
    (offset : store.curSegmentOffset = (segmentBytes layout.current).length)
    (fileSize : store.curSegmentFileSize = (segmentBytes layout.current ++ tail').length)
    (metaOpen : ∃ inode, after.inodes store.metaFd = some inode ∧
      after.names .metadata = some inode)
    (curOpen : ∃ inode, after.inodes store.curSegmentFd = some inode ∧
      after.names layout.currentName = some inode) :
    Laid env options gone layout tail' store after := by
  obtain ⟨inode, opened, named⟩ := curOpen
  have contents := Disk.view_of_name named
  rw [view, Function.update_self] at contents
  refine ⟨sound, ?_, ?_, fits, keyLength, maxSize, id, offset, fileSize, metaOpen, inode, opened,
    (Option.some.inj contents).symm, fun _ => named, fun absent => absurd absent stored.inUse⟩
  · rw [path]
    exact stored.path
  · rw [view]
    refine stored.archive.congr ?_ fun id apart =>
      Function.update_of_ne (segment_ne_current apart) ..
    rw [Function.update_of_ne (metadata_ne_current layout)]
    exact stored.archive.metadata

/-- A store runs once it has opened its segment, the file has its bytes and the positions have
been moved. -/
theorem running_opened (stored : Stored env options gone layout tail files.toDisk)
    (sound : files.Sound) (keyLength : store.indexKeyLength = options.indexKeyLength)
    (id : store.curSegmentId = segmentId layout.closed.length)
    (metaOpen : ∃ inode, files.inodes store.metaFd = some inode ∧
      files.names .metadata = some inode) {inode : Nat} {middle after : Files FileName}
    (opened : files.OpenedAs layout.currentName inode middle) {tail' : List UInt8}
    (fits : Fits options layout tail')
    (same : (middle.withContents inode (segmentBytes layout.current ++ tail')).Unchanged after) :
    Laid env options gone layout tail'
      (openedStore options layout tail' store files.nextDescriptor) after := by
  obtain ⟨metaInode, metaOpened, metaNamed⟩ := metaOpen
  have metaFd : store.metaFd ≠ files.nextDescriptor := fun same => by
    rw [same, sound.unopened _ le_rfl] at metaOpened
    cases metaOpened
  refine stored.running (same.sound (opened.sound.withContents _ _)) ?_ ?_ fits keyLength rfl id
    rfl rfl ⟨metaInode, ?_, ?_⟩ ⟨inode, ?_, ?_⟩
  · rw [same.disk]
    exact opened.path
  · rw [same.disk, Files.withContents_toDisk,
      opened.sound.toSound.view_withContents opened.named, opened.view, Function.update_idem]
  · rw [same.open_]
    change middle.inodes store.metaFd = some metaInode
    rw [opened.open_, Function.update_of_ne metaFd, metaOpened]
  · rw [same.disk]
    change middle.names .metadata = some metaInode
    rw [opened.names, Function.update_of_ne (metadata_ne_current layout), metaNamed]
  · rw [same.open_]
    change middle.inodes files.nextDescriptor = some inode
    rw [opened.open_, Function.update_self]
  · rw [same.disk]
    exact opened.named

/-- The end of `Init` on a segment that has no file or an empty one. -/
theorem openCurrent_unfilled {fuel : Nat} (sized : options.Sized)
    (stored : Stored env options gone layout [] files.toDisk) (sound : files.Sound)
    (none : layout.current = []) (keyLength : store.indexKeyLength = options.indexKeyLength)
    (id : store.curSegmentId = segmentId layout.closed.length)
    (metaOpen : ∃ inode, files.inodes store.metaFd = some inode ∧
      files.names .metadata = some inode) :
    Completes (LogSegmentStore.openCurrent env fuel store options) files
      (true, openedStore options layout (openedTail options layout []) store files.nextDescriptor)
      (Laid env options gone layout (openedTail options layout [])
        (openedStore options layout (openedTail options layout []) store
          files.nextDescriptor)) := by
  have name : FileName.segment store.curSegmentId = layout.currentName := by
    rw [id, Layout.currentName]
  have small := sized.small
  have fits := stored.fits.opened
  rw [openedTail, if_pos ⟨none, rfl⟩] at fits ⊢
  rw [LogSegmentStore.openCurrent, LogSegmentStore.openSegment, name]
  refine (sound.openFile_create layout.currentName).bind fun middle found => ?_
  obtain ⟨inode, opened⟩ := found
  have nothing : middle.contents inode = [] := by
    rw [opened.contents, stored.current, none]
    rfl
  have here : middle.inodes files.nextDescriptor = some inode := by
    rw [opened.open_, Function.update_self]
  have pad : Achieves (LogSegmentStore.paddingIfNewSegment { store with
      curSegmentFd := files.nextDescriptor, segmentMaxSize := options.segmentMaxSize })
      middle _ _ _ :=
    LogSegmentStore.paddingIfNewSegment_new here nothing sized.positive (by dsimp only; omega)
  obtain ⟨padded, pad, moved⟩ := pad
  have opened' : padded.inodes files.nextDescriptor = some inode := by
    rw [moved.open_]
    exact here
  obtain ⟨position, at_⟩ := Files.descriptor_of_inode opened'
  rw [if_neg (natCast_ne_failed _)]
  refine pad.andThen ?_
  dsimp only
  rw [if_neg (by omega), if_pos rfl]
  refine (Performs.lseek at_ 0).andThen ?_
  rw [if_neg (by simp)]
  have final := moved.trans (Files.moved_of_inode opened' 0)
  have laid := stored.running_opened sound keyLength id metaOpen opened fits
    (by rw [none]; exact final.unchanged)
  rw [openedStore, none] at laid ⊢
  simp only [segmentBytes_nil, List.nil_append, List.length_nil, List.length_replicate] at laid ⊢
  exact Completes.pure _ laid

/-- The end of `Init`, where the records of the segment end at an offset that an `int` holds. -/
theorem openCurrent (sized : options.Sized) (short : (segmentBytes layout.current).length < 2 ^ 31)
    (stored : Stored env options gone layout tail files.toDisk) (sound : files.Sound)
    (ends : Ends 8 tail) {fuel : Nat} (enough : options.segmentMaxSize < fuel)
    (keyLength : store.indexKeyLength = options.indexKeyLength)
    (id : store.curSegmentId = segmentId layout.closed.length)
    (metaOpen : ∃ inode, files.inodes store.metaFd = some inode ∧
      files.names .metadata = some inode) :
    Completes (LogSegmentStore.openCurrent env fuel store options) files
      (true, openedStore options layout (openedTail options layout tail) store
        files.nextDescriptor)
      (Laid env options gone layout (openedTail options layout tail)
        (openedStore options layout (openedTail options layout tail) store
          files.nextDescriptor)) := by
  by_cases empty : layout.current = [] ∧ tail = []
  · obtain ⟨none, rfl⟩ := empty
    exact stored.openCurrent_unfilled sized sound none keyLength id metaOpen
  have name : FileName.segment store.curSegmentId = layout.currentName := by
    rw [id, Layout.currentName]
  have small := sized.small
  have bound := stored.fits.current
  rw [openedTail, if_neg empty]
  have filled : segmentBytes layout.current ++ tail ≠ [] :=
    fun none => empty (segmentBytes_eq_nil.mp none)
  have view : files.view layout.currentName = some (segmentBytes layout.current ++ tail) := by
    cases found : files.view layout.currentName with
    | none =>
      have current := stored.current
      rw [found] at current
      exact absurd current.symm filled
    | some bytes =>
      rw [← stored.current, found]
      rfl
  obtain ⟨inode, named, contents⟩ := Disk.name_of_view view
  have opened : files.OpenedAs layout.currentName inode (files.opened inode) :=
    sound.openedAs_found named
  have few := length_le_segmentBytes layout.current
  have parts := bound
  rw [List.length_append] at parts
  have opens : Completes (LogSegmentStore.openCurrent env fuel store options) files _ _ :=
    openCurrent_filled sound (by rw [name]; exact named) contents filled
      (stored.fits.framed sized) ends short (by omega) (by omega)
  refine opens.imp fun after same => ?_
  refine stored.running_opened sound keyLength id metaOpen opened stored.fits ?_
  have whole : (files.opened inode).withContents inode (segmentBytes layout.current ++ tail) =
      files.opened inode := by
    rw [← contents]
    exact Files.withContents_self ..
  rw [whole]
  exact same

/-- `Init` on a disk whose segment in use has no file or an empty one. -/
theorem init_unfilled {fuel : Nat} (sized : options.Sized)
    (stored : Stored env options gone layout [] files.toDisk) (sound : files.Sound)
    (none : layout.current = []) :
    ∃ store, Completes (LogSegmentStore.init env fuel {} options) files (true, store)
      (Laid env options gone layout (openedTail options layout []) store) := by
  refine init_decodes sized.keys sound stored.path fun store after inode keyLength opened => ?_
  rw [stored.archive.metadata]
  exact ⟨_, (stored.metadata_opened opened).openCurrent_unfilled sized opened.sound none keyLength
    rfl ⟨inode, opened.opened, opened.named⟩⟩

/-- `Init` finds the records of the disk, where those of the segment in use end at an offset that
an `int` holds. -/
theorem init_short (sized : options.Sized) (short : (segmentBytes layout.current).length < 2 ^ 31)
    (stored : Stored env options gone layout tail files.toDisk) (sound : files.Sound)
    (ends : Ends 8 tail) {fuel : Nat} (enough : options.segmentMaxSize < fuel) :
    ∃ store, Completes (LogSegmentStore.init env fuel {} options) files (true, store)
      (Laid env options gone layout (openedTail options layout tail) store) := by
  refine init_decodes sized.keys sound stored.path fun store after inode keyLength opened => ?_
  rw [stored.archive.metadata]
  exact ⟨_, (stored.metadata_opened opened).openCurrent sized short opened.sound ends enough
    keyLength rfl ⟨inode, opened.opened, opened.named⟩⟩

/-- `Init` finds the records of the disk. -/
theorem init (usable : options.Usable)
    (stored : Stored env options gone layout tail files.toDisk) (sound : files.Sound)
    (ends : Ends 8 tail) {fuel : Nat} (enough : options.segmentMaxSize < fuel) :
    ∃ store, Completes (LogSegmentStore.init env fuel {} options) files (true, store)
      (Laid env options gone layout (openedTail options layout tail) store) := by
  have bound := stored.fits.bounded (show layout.current ∈ layout.closed ++ [layout.current] by simp)
  exact stored.init_short usable.sized (Nat.lt_of_le_of_lt bound usable.small) sound ends enough

end Stored

/-- `Init` of a store that has used up the numbers opens the first segment again. -/
theorem Spent.init (usable : options.Usable) (spent : Spent env options gone layout store files)
    (present : ¬ gone 0) (filled : ∀ entries ∈ layout.closed, entries ≠ []) {fuel : Nat}
    (enough : options.segmentMaxSize < fuel) :
    ∃ store', Completes (LogSegmentStore.init env fuel {} options) files.toDisk.boot (true, store')
      fun after => store'.curSegmentId = segmentId 0 ∧
        Readable options gone layout [] store' after := by
  have all := spent.all
  obtain ⟨entries, first⟩ : ∃ entries, layout.closed[0]? = some entries :=
    ⟨_, List.getElem?_eq_getElem (by omega)⟩
  have inside : (layout.closed ++ [layout.current])[0]? = some entries := by
    rw [List.getElem?_append_left (by omega)]
    exact first
  have bytes := spent.readable.view inside present
  rw [if_pos (by omega)] at bytes
  have bound := spent.readable.fits.bounded (List.mem_of_getElem? inside)
  have small := usable.small
  have few := length_le_segmentBytes entries
  have framed : ∀ body ∈ entries.map Entry.body, Framed 8 body := by
    have alone : Fits options ⟨[], entries⟩ [] :=
      ⟨fun others member => by
        obtain rfl := List.mem_singleton.mp member
        exact spent.readable.fits.keyed _ (List.mem_of_getElem? inside), by simp,
        by rw [List.append_nil]; exact bound⟩
    exact alone.framed usable.sized
  refine init_decodes usable.keys spent.readable.sound.toSound.boot spent.path
    fun opening after inode keyLength opened => ?_
  have views : ∀ id, after.view (.segment id) = files.view (.segment id) := fun id => by
    rw [opened.view]
    exact Function.update_of_ne (by simp) ..
  obtain ⟨segment, named, contents⟩ := Disk.name_of_view ((views (segmentId 0)).trans bytes)
  have decoded : decodeMetadata env ((files.toDisk.boot.view .metadata).getD []) =
      some (segmentId 0) := spent.metadata
  rw [decoded]
  have sound := (opened.sound.openedAs_found named).sound
  have opens : Completes (LogSegmentStore.openCurrent env fuel
      { opening with curSegmentId := segmentId 0 } options) after _ _ :=
    openCurrent_filled opened.sound named contents
      (fun none => filled entries (List.mem_of_getElem? first) (segmentBytes_eq_nil.mp none).1)
      framed (ends_of_short (by decide)) (by omega) (by rw [List.append_nil]; omega) (by omega)
  refine ⟨_, opens.imp fun final same => ⟨rfl, ?_⟩⟩
  refine spent.readable.congr (same.sound sound) keyLength fun id => ?_
  rw [same.disk]
  exact views id

end Paxosme
