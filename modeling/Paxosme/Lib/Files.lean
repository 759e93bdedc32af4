import Mathlib.Logic.Function.Basic
import Paxosme.Lib.Bytes

/-!
# Files and descriptors

Files as a process sees them: names lead to the bytes of a file, and a descriptor stands at a
position of a file that it keeps open even when its name is gone. A descriptor number is given
out once.
-/

namespace Posix

variable {ν : Type}

/-- A descriptor, −1 where a call gives none. -/
abbrev FD := Int

/-- A descriptor that has been given out is not −1. -/
theorem natCast_ne_failed (number : Nat) : (number : FD) ≠ -1 := by
  change (number : Int) ≠ -1
  omega

theorem natCast_not_neg (number : Nat) : ¬ (number : FD) < 0 := by
  change ¬ (number : Int) < 0
  omega

/-- What stands at the path of the directory. -/
inductive PathKind where
  | absent
  | directory
  | other
  deriving DecidableEq, Repr

/-- The files of one directory. -/
structure Disk (ν : Type) where
  /-- What the path of the directory leads to. -/
  path : PathKind
  /-- The file behind a name. -/
  names : ν → Option Nat
  /-- The bytes of a file. -/
  contents : Nat → List UInt8
  /-- Number of the next file that is created. -/
  nextInode : Nat

/-- An open file: which one, and where the next read or write starts. -/
structure OpenFile where
  inode : Nat
  position : Nat
  deriving DecidableEq, Repr

/-- The files of a directory and those that a process has open. -/
structure Files (ν : Type) extends Disk ν where
  /-- The open file behind a descriptor. -/
  descriptors : FD → Option OpenFile
  /-- Number of the next descriptor. -/
  nextDescriptor : Nat

namespace Disk

/-- Nothing at the path. -/
def empty : Disk ν where
  path := .absent
  names _ := none
  contents _ := []
  nextInode := 0

/-- What a reader sees of a disk: the bytes of the file behind a name, if there is one. -/
def view (disk : Disk ν) (name : ν) : Option (List UInt8) := (disk.names name).map disk.contents

/-- A disk with other bytes in one of its files. -/
def withContents (disk : Disk ν) (inode : Nat) (bytes : List UInt8) : Disk ν :=
  { disk with contents := Function.update disk.contents inode bytes }

/-- A disk without a name. -/
def without [DecidableEq ν] (disk : Disk ν) (name : ν) : Disk ν :=
  { disk with names := Function.update disk.names name none }

/-- A disk with a new empty file. -/
def created [DecidableEq ν] (disk : Disk ν) (name : ν) : Disk ν :=
  { disk.withContents disk.nextInode [] with
    names := Function.update disk.names name (some disk.nextInode)
    nextInode := disk.nextInode + 1 }

/-- The files of a process that starts on a disk. -/
def boot (disk : Disk ν) : Files ν :=
  { disk with descriptors := fun _ => none, nextDescriptor := 3 }

/-- A name leads to a file that has been created, and a file has one name at most. -/
structure Sound (disk : Disk ν) : Prop where
  named : ∀ name inode, disk.names name = some inode → inode < disk.nextInode
  single : ∀ first second inode, disk.names first = some inode →
    disk.names second = some inode → first = second

@[simp] theorem withContents_names (disk : Disk ν) (inode : Nat) (bytes : List UInt8) :
    (disk.withContents inode bytes).names = disk.names := rfl

@[simp] theorem withContents_path (disk : Disk ν) (inode : Nat) (bytes : List UInt8) :
    (disk.withContents inode bytes).path = disk.path := rfl

@[simp] theorem withContents_nextInode (disk : Disk ν) (inode : Nat) (bytes : List UInt8) :
    (disk.withContents inode bytes).nextInode = disk.nextInode := rfl

theorem withContents_same (disk : Disk ν) (inode : Nat) (bytes : List UInt8) :
    (disk.withContents inode bytes).contents inode = bytes := Function.update_self ..

theorem withContents_other (disk : Disk ν) {inode other : Nat} (differ : other ≠ inode)
    (bytes : List UInt8) : (disk.withContents inode bytes).contents other = disk.contents other :=
  Function.update_of_ne differ ..

@[simp] theorem withContents_withContents (disk : Disk ν) (inode : Nat)
    (first second : List UInt8) :
    (disk.withContents inode first).withContents inode second =
      disk.withContents inode second := by
  simp [withContents]

theorem view_of_name {disk : Disk ν} {name : ν} {inode : Nat}
    (found : disk.names name = some inode) : disk.view name = some (disk.contents inode) := by
  simp [view, found]

theorem view_eq_none {disk : Disk ν} {name : ν} : disk.view name = none ↔ disk.names name = none := by
  simp [view]

theorem name_of_view {disk : Disk ν} {name : ν} {bytes : List UInt8}
    (seen : disk.view name = some bytes) :
    ∃ inode, disk.names name = some inode ∧ disk.contents inode = bytes :=
  Option.map_eq_some_iff.mp seen

/-- Writing a file changes what is seen behind its name. -/
theorem Sound.view_withContents [DecidableEq ν] {disk : Disk ν} (sound : disk.Sound) {name : ν}
    {inode : Nat} (found : disk.names name = some inode) (bytes : List UInt8) :
    (disk.withContents inode bytes).view = Function.update disk.view name (some bytes) := by
  funext other
  by_cases same : other = name
  · subst same
    rw [Function.update_self, view_of_name (by simpa using found), withContents_same]
  · rw [Function.update_of_ne same, view, view, withContents_names]
    cases there : disk.names other with
    | none => rfl
    | some place =>
      have apart : place ≠ inode := fun equal =>
        same (sound.single other name inode (equal ▸ there) found)
      rw [Option.map_some, Option.map_some, withContents_other _ apart]

/-- Writing a file changes nothing that is seen behind a name of another one. -/
theorem view_withContents_of_ne {disk : Disk ν} {name : ν} {inode : Nat}
    (apart : disk.names name ≠ some inode) (bytes : List UInt8) :
    (disk.withContents inode bytes).view name = disk.view name := by
  rw [view, view, withContents_names]
  cases there : disk.names name with
  | none => rfl
  | some place =>
    have differ : place ≠ inode := fun equal => apart (equal ▸ there)
    rw [Option.map_some, Option.map_some, withContents_other _ differ]

/-- Writing a file that has no name changes nothing that is seen. -/
theorem view_withContents_unnamed {disk : Disk ν} {inode : Nat}
    (unnamed : ∀ name, disk.names name ≠ some inode) (bytes : List UInt8) :
    (disk.withContents inode bytes).view = disk.view := by
  funext other
  exact view_withContents_of_ne (unnamed other) bytes

/-- Writing a file changes what is seen behind its name, if it has one. -/
theorem Sound.view_written [DecidableEq ν] {disk : Disk ν} (sound : disk.Sound) {name : ν}
    {inode : Nat} {unlinked : Prop} (linked : ¬ unlinked → disk.names name = some inode)
    (unnamed : unlinked → disk.view name = none ∧ ∀ other, disk.names other ≠ some inode)
    (bytes : List UInt8) : (disk.withContents inode bytes).view =
      Function.update disk.view name ((disk.view name).map fun _ => bytes) := by
  by_cases absent : unlinked
  · obtain ⟨unseen, unnamed⟩ := unnamed absent
    rw [view_withContents_unnamed unnamed, unseen, Option.map_none, ← unseen,
      Function.update_eq_self]
  · rw [sound.view_withContents (linked absent), view_of_name (linked absent), Option.map_some]

theorem view_without [DecidableEq ν] (disk : Disk ν) (name : ν) :
    (disk.without name).view = Function.update disk.view name none := by
  funext other
  by_cases same : other = name
  · simp [same, view, without]
  · simp [same, view, without]

theorem without_names_of_ne [DecidableEq ν] (disk : Disk ν) {name other : ν}
    (differ : other ≠ name) : (disk.without name).names other = disk.names other :=
  Function.update_of_ne differ ..

/-- A name that is left led to the same file before. -/
theorem names_of_without [DecidableEq ν] {disk : Disk ν} {name other : ν} {inode : Nat}
    (found : (disk.without name).names other = some inode) :
    other ≠ name ∧ disk.names other = some inode := by
  have differ : other ≠ name := by
    rintro rfl
    simp [without] at found
  exact ⟨differ, (disk.without_names_of_ne differ).symm.trans found⟩

theorem Sound.withContents {disk : Disk ν} (sound : disk.Sound) (inode : Nat)
    (bytes : List UInt8) : (disk.withContents inode bytes).Sound :=
  ⟨sound.named, sound.single⟩

theorem Sound.without [DecidableEq ν] {disk : Disk ν} (sound : disk.Sound) (name : ν) :
    (disk.without name).Sound where
  named other inode found := sound.named other inode (names_of_without found).2
  single first second inode left right :=
    sound.single first second inode (names_of_without left).2 (names_of_without right).2

theorem Sound.created [DecidableEq ν] {disk : Disk ν} (sound : disk.Sound) (name : ν) :
    (disk.created name).Sound where
  named other inode found := by
    by_cases same : other = name
    · subst same
      obtain rfl : disk.nextInode = inode := by simpa [Disk.created] using found
      exact Nat.lt_succ_self _
    · have old := sound.named other inode (by simpa [Disk.created, same] using found)
      exact Nat.lt_succ_of_lt old
  single first second inode left right := by
    have old : ∀ other, other ≠ name → (disk.created name).names other = some inode →
        disk.names other = some inode := fun other differ found => by
      simpa [Disk.created, differ] using found
    by_cases same : first = name <;> by_cases same' : second = name
    · rw [same, same']
    · subst same
      obtain rfl : disk.nextInode = inode := by simpa [Disk.created] using left
      exact absurd (sound.named _ _ (old second same' right)) (Nat.lt_irrefl _)
    · subst same'
      obtain rfl : disk.nextInode = inode := by simpa [Disk.created] using right
      exact absurd (sound.named _ _ (old first same left)) (Nat.lt_irrefl _)
    · exact sound.single first second inode (old first same left) (old second same' right)

@[simp] theorem created_names_self [DecidableEq ν] (disk : Disk ν) (name : ν) :
    (disk.created name).names name = some disk.nextInode := by
  simp [created]

@[simp] theorem created_contents_self [DecidableEq ν] (disk : Disk ν) (name : ν) :
    (disk.created name).contents disk.nextInode = [] :=
  withContents_same ..

theorem created_names_of_ne [DecidableEq ν] (disk : Disk ν) {name other : ν}
    (differ : other ≠ name) : (disk.created name).names other = disk.names other := by
  simp [created, differ]

/-- A new file is empty, and no other file changes. -/
theorem Sound.view_created [DecidableEq ν] {disk : Disk ν} (sound : disk.Sound) (name : ν) :
    (disk.created name).view = Function.update disk.view name (some []) := by
  funext other
  by_cases same : other = name
  · subst same
    rw [Function.update_self, view_of_name (disk.created_names_self other), created_contents_self]
  · rw [Function.update_of_ne same, view, view, created_names_of_ne _ same]
    cases there : disk.names other with
    | none => rfl
    | some inode =>
      have old := sound.named other inode there
      have apart : inode ≠ disk.nextInode := by omega
      rw [Option.map_some, Option.map_some]
      exact congrArg some (withContents_other disk apart [])

end Disk

namespace Files

/-- The file that a descriptor keeps open. -/
def inodes (files : Files ν) (fd : FD) : Option Nat := (files.descriptors fd).map OpenFile.inode

/-- Files with other bytes in one of them. -/
def withContents (files : Files ν) (inode : Nat) (bytes : List UInt8) : Files ν :=
  { files with toDisk := files.toDisk.withContents inode bytes }

/-- Files with another open file, or nothing, behind a descriptor. -/
def withDescriptor (files : Files ν) (fd : FD) (file : Option OpenFile) : Files ν :=
  { files with descriptors := Function.update files.descriptors fd file }

/-- Files with a file opened under the next number. -/
def opened (files : Files ν) (inode : Nat) : Files ν :=
  { files.withDescriptor files.nextDescriptor (some ⟨inode, 0⟩) with
    nextDescriptor := files.nextDescriptor + 1 }

/-- Files with a new empty file. -/
def created [DecidableEq ν] (files : Files ν) (name : ν) : Files ν :=
  { files with toDisk := files.toDisk.created name }

/-! ## What the calls do -/

/-- `mkdir`. -/
def mkdir (files : Files ν) : Bool × Files ν :=
  if files.path = .absent then (true, { files with path := .directory }) else (false, files)

/-- `open` for reading and writing, with or without `O_CREAT`. -/
def openFile [DecidableEq ν] (files : Files ν) (name : ν) (create : Bool) : FD × Files ν :=
  match files.names name with
  | some inode => (files.nextDescriptor, files.opened inode)
  | none =>
    if create then (files.nextDescriptor, (files.created name).opened files.nextInode)
    else (-1, files)

/-- From where `lseek` counts. -/
inductive Whence where
  | start
  | finish
  deriving DecidableEq, Repr

/-- `lseek`; the position must not be negative. -/
def lseek (files : Files ν) (fd : FD) (offset : Int) (whence : Whence) : Int × Files ν :=
  match files.descriptors fd with
  | none => (-1, files)
  | some file =>
    let target := match whence with
      | .start => offset
      | .finish => (files.contents file.inode).length + offset
    if target < 0 then (-1, files)
    else (target, files.withDescriptor fd (some { file with position := target.toNat }))

/-- `read` of at most a number of bytes. -/
def read (files : Files ν) (fd : FD) (count : Nat) : Option (List UInt8) × Files ν :=
  match files.descriptors fd with
  | none => (none, files)
  | some file =>
    let bytes := Bytes.readAt (files.contents file.inode) file.position count
    (some bytes,
      files.withDescriptor fd (some { file with position := file.position + bytes.length }))

/-- `write`, with the number of bytes that are written. -/
def write (files : Files ν) (fd : FD) (bytes : List UInt8) : Option Nat × Files ν :=
  match files.descriptors fd with
  | none => (none, files)
  | some file =>
    let written := Bytes.writeAt (files.contents file.inode) file.position bytes
    (some bytes.length, (files.withContents file.inode written).withDescriptor fd
      (some { file with position := file.position + bytes.length }))

/-- `ftruncate`. -/
def ftruncate (files : Files ν) (fd : FD) (length : Int) : Bool × Files ν :=
  match files.descriptors fd with
  | none => (false, files)
  | some file =>
    if length < 0 then (false, files)
    else (true, files.withContents file.inode
      (Bytes.resize (files.contents file.inode) length.toNat))

/-- `fsync`; what has been written is on the disk in any case. -/
def fsync (files : Files ν) (fd : FD) : Bool := (files.descriptors fd).isSome

/-- `remove` of a name. -/
def remove [DecidableEq ν] (files : Files ν) (name : ν) : Bool × Files ν :=
  if (files.names name).isSome then (true, { files with toDisk := files.toDisk.without name })
  else (false, files)

/-- The disk is sound, and the open files have been opened. -/
structure Sound (files : Files ν) : Prop extends files.toDisk.Sound where
  /-- A number that has not been given out leads to no open file. -/
  unopened : ∀ fd : FD, (files.nextDescriptor : Int) ≤ fd → files.inodes fd = none
  /-- −1 leads to no open file. -/
  failed : files.inodes (-1) = none
  /-- An open file has been created. -/
  opens : ∀ fd inode, files.inodes fd = some inode → inode < files.nextInode

section Projections

variable (files : Files ν) (inode : Nat) (bytes : List UInt8) (fd : FD) (file : Option OpenFile)

@[simp] theorem withContents_toDisk :
    (files.withContents inode bytes).toDisk = files.toDisk.withContents inode bytes := rfl

@[simp] theorem withContents_descriptors :
    (files.withContents inode bytes).descriptors = files.descriptors := rfl

@[simp] theorem withContents_inodes :
    (files.withContents inode bytes).inodes = files.inodes := rfl

@[simp] theorem withContents_nextDescriptor :
    (files.withContents inode bytes).nextDescriptor = files.nextDescriptor := rfl

theorem withContents_self : files.withContents inode (files.contents inode) = files := by
  simp [withContents, Disk.withContents]

@[simp] theorem withDescriptor_toDisk : (files.withDescriptor fd file).toDisk = files.toDisk := rfl

@[simp] theorem withDescriptor_descriptors : (files.withDescriptor fd file).descriptors =
    Function.update files.descriptors fd file := rfl

@[simp] theorem withDescriptor_inodes : (files.withDescriptor fd file).inodes =
    Function.update files.inodes fd (file.map OpenFile.inode) := by
  funext other
  by_cases same : other = fd
  · subst same
    simp [inodes]
  · simp [inodes, same]

@[simp] theorem withDescriptor_nextDescriptor :
    (files.withDescriptor fd file).nextDescriptor = files.nextDescriptor := rfl

theorem descriptor_self {files : Files ν} {fd : FD} {file : Option OpenFile} :
    (files.withDescriptor fd file).descriptors fd = file := Function.update_self ..

@[simp] theorem opened_toDisk : (files.opened inode).toDisk = files.toDisk := rfl

@[simp] theorem opened_descriptors : (files.opened inode).descriptors =
    Function.update files.descriptors files.nextDescriptor (some ⟨inode, 0⟩) := rfl

theorem opened_self {files : Files ν} {inode : Nat} :
    (files.opened inode).descriptors files.nextDescriptor = some ⟨inode, 0⟩ :=
  Function.update_self ..

@[simp] theorem opened_inodes : (files.opened inode).inodes =
    Function.update files.inodes files.nextDescriptor (some inode) :=
  withDescriptor_inodes files files.nextDescriptor (some ⟨inode, 0⟩)

@[simp] theorem opened_nextDescriptor :
    (files.opened inode).nextDescriptor = files.nextDescriptor + 1 := rfl

@[simp] theorem created_toDisk [DecidableEq ν] (name : ν) :
    (files.created name).toDisk = files.toDisk.created name := rfl

@[simp] theorem created_descriptors [DecidableEq ν] (name : ν) :
    (files.created name).descriptors = files.descriptors := rfl

@[simp] theorem created_inodes [DecidableEq ν] (name : ν) :
    (files.created name).inodes = files.inodes := rfl

@[simp] theorem created_nextDescriptor [DecidableEq ν] (name : ν) :
    (files.created name).nextDescriptor = files.nextDescriptor := rfl

@[simp] theorem boot_toDisk (disk : Disk ν) : disk.boot.toDisk = disk := rfl

@[simp] theorem boot_inodes (disk : Disk ν) (fd : FD) : disk.boot.inodes fd = none := rfl

end Projections

/-- Moving within an open file changes no open file. -/
theorem update_inodes {files : Files ν} {fd : FD} {inode : Nat}
    (opened : files.inodes fd = some inode) :
    Function.update files.inodes fd (some inode) = files.inodes := by
  rw [← opened, Function.update_eq_self]

/-- A descriptor that keeps a file open stands at a position of it. -/
theorem descriptor_of_inode {files : Files ν} {fd : FD} {inode : Nat}
    (opened : files.inodes fd = some inode) :
    ∃ position, files.descriptors fd = some ⟨inode, position⟩ := by
  obtain ⟨file, found, rfl⟩ := Option.map_eq_some_iff.mp opened
  exact ⟨file.position, found⟩

/-- Only positions differ. -/
structure Moved (files after : Files ν) : Prop where
  disk : after.toDisk = files.toDisk
  open_ : after.inodes = files.inodes
  next : after.nextDescriptor = files.nextDescriptor

theorem Moved.refl (files : Files ν) : files.Moved files := ⟨rfl, rfl, rfl⟩

theorem Moved.trans {files middle after : Files ν} (first : files.Moved middle)
    (second : middle.Moved after) : files.Moved after :=
  ⟨second.disk.trans first.disk, second.open_.trans first.open_, second.next.trans first.next⟩

theorem Moved.withContents {files after : Files ν} (moved : files.Moved after) (inode : Nat)
    (bytes : List UInt8) :
    (files.withContents inode bytes).Moved (after.withContents inode bytes) :=
  ⟨by simp [moved.disk], moved.open_, moved.next⟩

theorem Moved.opened {files after : Files ν} (moved : files.Moved after) (inode : Nat) :
    (files.opened inode).Moved (after.opened inode) :=
  ⟨moved.disk, by simp [moved.open_, moved.next], by simp [moved.next]⟩

theorem Moved.created [DecidableEq ν] {files after : Files ν} (moved : files.Moved after)
    (name : ν) : (files.created name).Moved (after.created name) :=
  ⟨by simp [moved.disk], moved.open_, moved.next⟩

/-- To stand somewhere else in an open file is to move. -/
theorem moved_of_inode {files : Files ν} {fd : FD} {inode : Nat}
    (opened : files.inodes fd = some inode) (position : Nat) :
    files.Moved (files.withDescriptor fd (some ⟨inode, position⟩)) :=
  ⟨rfl, by rw [withDescriptor_inodes, Option.map_some, update_inodes opened], rfl⟩

/-- The disk and the open files are the same; only positions and numbers to come differ. -/
structure Unchanged (files after : Files ν) : Prop where
  disk : after.toDisk = files.toDisk
  open_ : after.inodes = files.inodes
  next : files.nextDescriptor ≤ after.nextDescriptor

theorem Unchanged.sound {files after : Files ν} (same : files.Unchanged after)
    (sound : files.Sound) : after.Sound where
  toSound := by rw [same.disk]; exact sound.toSound
  unopened fd new := by
    rw [same.open_]
    exact sound.unopened fd (by have := same.next; omega)
  failed := by rw [same.open_]; exact sound.failed
  opens fd inode opened := by
    rw [same.open_] at opened
    rw [same.disk]
    exact sound.opens fd inode opened

theorem Moved.unchanged {files after : Files ν} (moved : files.Moved after) :
    files.Unchanged after :=
  ⟨moved.disk, moved.open_, moved.next.ge⟩

theorem Unchanged.trans {files middle after : Files ν} (first : files.Unchanged middle)
    (second : middle.Unchanged after) : files.Unchanged after :=
  ⟨second.disk.trans first.disk, second.open_.trans first.open_, first.next.trans second.next⟩

/-- A file that is opened and closed again. -/
theorem Sound.unchanged_closed {files after : Files ν} (sound : files.Sound) {inode : Nat}
    (disk : after.toDisk = files.toDisk)
    (open_ : after.inodes = Function.update files.inodes files.nextDescriptor (some inode))
    (next : after.nextDescriptor = files.nextDescriptor + 1) :
    files.Unchanged (after.withDescriptor files.nextDescriptor none) where
  disk := disk
  open_ := by
    have new : files.inodes files.nextDescriptor = none := sound.unopened _ le_rfl
    rw [withDescriptor_inodes, open_, Function.update_idem, Option.map_none, ← new,
      Function.update_eq_self]
  next := by rw [withDescriptor_nextDescriptor, next]; exact Nat.le_succ _

theorem Sound.withContents {files : Files ν} (sound : files.Sound) (inode : Nat)
    (bytes : List UInt8) : (files.withContents inode bytes).Sound where
  toSound := sound.toSound.withContents inode bytes
  unopened := sound.unopened
  failed := sound.failed
  opens := sound.opens

theorem Sound.closed {files : Files ν} (sound : files.Sound) (fd : FD) :
    (files.withDescriptor fd none).Sound where
  toSound := sound.toSound
  unopened other new := by
    by_cases same : other = fd <;> simp [same, sound.unopened other new]
  failed := by
    by_cases same : -1 = fd <;> simp [same, sound.failed]
  opens other inode opened := by
    by_cases same : other = fd
    · simp [same] at opened
    · exact sound.opens other inode (by simpa [same] using opened)

theorem Sound.opened {files : Files ν} (sound : files.Sound) {inode : Nat}
    (named : inode < files.nextInode) : (files.opened inode).Sound where
  toSound := sound.toSound
  unopened fd new := by
    have above : (files.nextDescriptor : Int) < fd :=
      Int.add_one_le_iff.mp (by simpa using new)
    have old := sound.unopened fd (Int.le_of_lt above)
    simp [Int.ne_of_gt above, old]
  failed := by
    have apart : (-1 : Int) ≠ files.nextDescriptor := by omega
    simp [apart, sound.failed]
  opens fd other opened := by
    by_cases same : fd = files.nextDescriptor
    · obtain rfl : inode = other := by simpa [same] using opened
      exact named
    · exact sound.opens fd other (by simpa [same] using opened)

theorem Sound.created [DecidableEq ν] {files : Files ν} (sound : files.Sound) (name : ν) :
    (files.created name).Sound where
  toSound := sound.toSound.created name
  unopened := sound.unopened
  failed := sound.failed
  opens fd inode opened := Nat.lt_succ_of_lt (sound.opens fd inode opened)

theorem Sound.removed [DecidableEq ν] {files : Files ν} (sound : files.Sound) (name : ν) :
    ({ files with toDisk := files.toDisk.without name } : Files ν).Sound where
  toSound := sound.toSound.without name
  unopened := sound.unopened
  failed := sound.failed
  opens := sound.opens

/-- The files after a name has been opened, and created if it led to no file. -/
structure OpenedAs [DecidableEq ν] (files : Files ν) (name : ν) (inode : Nat) (after : Files ν) :
    Prop where
  sound : after.Sound
  path : after.path = files.path
  names : after.names = Function.update files.names name (some inode)
  /-- A file that is created is no file that was there. -/
  fresh : files.names name = none → files.nextInode ≤ inode
  /-- All files that were there have their bytes. -/
  kept : ∀ old < files.nextInode, after.contents old = files.contents old
  view : after.view = Function.update files.view name (some ((files.view name).getD []))
  start : after.descriptors files.nextDescriptor = some ⟨inode, 0⟩
  open_ : after.inodes = Function.update files.inodes files.nextDescriptor (some inode)
  next : after.nextDescriptor = files.nextDescriptor + 1

theorem OpenedAs.named [DecidableEq ν] {files after : Files ν} {name : ν} {inode : Nat}
    (opened : files.OpenedAs name inode after) : after.names name = some inode := by
  rw [opened.names, Function.update_self]

/-- The bytes of a file that has been opened are those behind its name. -/
theorem OpenedAs.contents [DecidableEq ν] {files after : Files ν} {name : ν} {inode : Nat}
    (opened : files.OpenedAs name inode after) :
    after.contents inode = (files.view name).getD [] := by
  have seen := Disk.view_of_name opened.named
  rw [opened.view, Function.update_self] at seen
  exact (Option.some.inj seen).symm

/-- Where open files stand does not matter. -/
theorem OpenedAs.of_moved [DecidableEq ν] {files middle after : Files ν} {name : ν} {inode : Nat}
    (opened : middle.OpenedAs name inode after) (moved : files.Moved middle) :
    files.OpenedAs name inode after := by
  obtain ⟨disk, open_, next⟩ := moved
  refine ⟨opened.sound, ?_, ?_, ?_, ?_, ?_, ?_, ?_, ?_⟩
  · rw [← disk, opened.path]
  · rw [← disk, opened.names]
  · rw [← disk]
    exact opened.fresh
  · rw [← disk]
    exact opened.kept
  · rw [← disk, opened.view]
  · rw [← next, opened.start]
  · rw [← open_, ← next, opened.open_]
  · rw [← next, opened.next]

/-- A file that is there is opened. -/
theorem Sound.openedAs_found [DecidableEq ν] {files : Files ν} (sound : files.Sound) {name : ν}
    {inode : Nat} (found : files.names name = some inode) :
    files.OpenedAs name inode (files.opened inode) where
  sound := sound.opened (sound.named name inode found)
  path := rfl
  names := by rw [← found, Function.update_eq_self]; rfl
  fresh missing := absurd (found.symm.trans missing) (Option.some_ne_none _)
  kept _ _ := rfl
  view := by
    have seen := Disk.view_of_name found
    rw [opened_toDisk, seen, Option.getD_some, ← seen, Function.update_eq_self]
  start := opened_self
  open_ := by simp
  next := rfl

/-- A file that is not there is created. -/
theorem Sound.openedAs_missing [DecidableEq ν] {files : Files ν} (sound : files.Sound) {name : ν}
    (missing : files.names name = none) :
    files.OpenedAs name files.nextInode ((files.created name).opened files.nextInode) where
  sound := (sound.created name).opened (Nat.lt_succ_self _)
  path := rfl
  names := rfl
  fresh _ := le_rfl
  kept old there := Function.update_of_ne (Nat.ne_of_lt there) _ _
  view := by
    have unseen := Disk.view_eq_none.mpr missing
    rw [opened_toDisk, created_toDisk, sound.toSound.view_created, unseen, Option.getD_none]
  start := opened_self
  open_ := by simp
  next := rfl

end Files

/-- The files of a new process on a sound disk are sound. -/
theorem Disk.Sound.boot {disk : Disk ν} (sound : disk.Sound) : disk.boot.Sound where
  toSound := sound
  unopened _ _ := rfl
  failed := rfl
  opens _ _ opened := by simp at opened

end Posix
