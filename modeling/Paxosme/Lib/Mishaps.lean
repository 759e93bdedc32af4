import Paxosme.Lib.SystemCalls

/-!
# Calls of which anything may become

`Secures` is the rule for programs that are not told what becomes of their calls: each may fail, a
read or a write may move a part of its bytes, and the process may stop before any of them. It says
what holds of the value and of the files when a program returns, and what holds of the files when
the process stops in the middle.
-/

namespace Posix

variable {ν α β : Type}

/-- Whatever becomes of its calls, a program returns a value and leaves files of which a condition
holds, or the process stops and leaves files of which another one holds. -/
def Secures (program : Sys ν α) (files : Files ν) (stopped : Files ν → Prop)
    (post : α → Files ν → Prop) : Prop :=
  ∀ world : World ν, world.files = files →
    (∀ value, (program world).1 = some value → post value (program world).2.files) ∧
      ((program world).1 = none → stopped (program world).2.files)

namespace Secures

variable {program first : Sys ν α} {next : α → Sys ν β} {files : Files ν}
  {stopped : Files ν → Prop} {post mid : α → Files ν → Prop} {goal : β → Files ν → Prop} {value : α}

/-- A program that makes no call. -/
theorem pure (holds : post value files) :
    Secures (Pure.pure value : Sys ν α) files stopped post := by
  rintro world rfl
  refine ⟨fun other returned => ?_, fun none => absurd none (Option.some_ne_none _)⟩
  obtain rfl := Option.some.inj returned
  exact holds

/-- One program and then another on its result. -/
theorem bind (secures : Secures first files stopped mid)
    (second : ∀ value middle, mid value middle → Secures (next value) middle stopped goal) :
    Secures (first >>= next) files stopped goal := by
  intro world start
  obtain ⟨returns, stops⟩ := secures world start
  rw [bind_apply]
  cases result : first world with
  | mk value after =>
    rw [result] at returns stops
    cases value with
    | none => exact ⟨fun _ value => absurd value.symm (Option.some_ne_none _), fun _ => stops rfl⟩
    | some value => exact second value after.files (returns value rfl) after rfl

/-- A program that stops the process. -/
theorem stop (here : stopped files) : Secures (Sys.stop : Sys ν α) files stopped post := by
  rintro world rfl
  exact ⟨fun _ value => absurd value.symm (Option.some_ne_none _), fun _ => here⟩

/-- A weaker condition on what is returned. -/
theorem imp (secures : Secures program files stopped mid)
    (weaker : ∀ value after, mid value after → post value after) :
    Secures program files stopped post := by
  intro world start
  obtain ⟨returns, stops⟩ := secures world start
  exact ⟨fun value returned => weaker _ _ (returns value returned), stops⟩

/-- What holds of the value besides. -/
theorem and (secures : Secures program files stopped mid)
    (besides : Secures program files (fun _ => True) post) :
    Secures program files stopped fun value after => mid value after ∧ post value after :=
  fun world start => ⟨fun value returned => ⟨(secures world start).1 value returned,
    (besides world start).1 value returned⟩, (secures world start).2⟩

/-- A branch on a condition. -/
theorem ite {condition : Prop} [Decidable condition] {other : Sys ν α}
    (yes : condition → Secures program files stopped post)
    (no : ¬ condition → Secures other files stopped post) :
    Secures (if condition then program else other) files stopped post := by
  by_cases holds : condition
  · rw [if_pos holds]
    exact yes holds
  · rw [if_neg holds]
    exact no holds

/-- A buffer is used. -/
theorem touch (size count : Nat) (files : Files ν) :
    Secures (Posix.touch size count) files stopped fun _ after => after = files := by
  rintro world rfl
  exact ⟨fun _ _ => rfl, fun none => absurd none (Option.some_ne_none _)⟩

/-- A call fails, or has an effect; the process may stop before it. -/
theorem call {failed : α} {effect : Outcome → Files ν → α × Files ν} (here : stopped files)
    (fails : post failed files)
    (runs : ∀ outcome, outcome ≠ .fails →
      post (effect outcome files).1 (effect outcome files).2) :
    Secures (Posix.call failed effect) files stopped post := by
  rintro world rfl
  rw [Posix.call]
  by_cases finished : world.limit = some 0
  · rw [if_pos finished]
    exact ⟨fun _ value => absurd value.symm (Option.some_ne_none _), fun _ => here⟩
  · rw [if_neg finished]
    dsimp only
    by_cases fail : world.outcomes.headD .succeeds = .fails
    · rw [if_pos fail]
      exact ⟨fun value returned => Option.some.inj returned ▸ fails,
        fun none => absurd none (Option.some_ne_none _)⟩
    · rw [if_neg fail]
      exact ⟨fun value returned => Option.some.inj returned ▸ runs _ fail,
        fun none => absurd none (Option.some_ne_none _)⟩

variable {fd : FD} {name : ν}

/-- A descriptor is closed. -/
theorem close (here : stopped files) : Secures (Posix.close fd) files stopped
    fun _ after => after = files.withDescriptor fd none := by
  rintro world rfl
  rw [Posix.close]
  by_cases finished : world.limit = some 0
  · rw [if_pos finished]
    exact ⟨fun _ value => absurd value.symm (Option.some_ne_none _), fun _ => here⟩
  · rw [if_neg finished]
    exact ⟨fun _ _ => rfl, fun none => absurd none (Option.some_ne_none _)⟩

/-- `lseek` from the start fails, or an open file stands at the position. -/
theorem lseek_start (here : stopped files) (offset : Int) :
    Secures (Posix.lseek fd offset .start) files stopped fun result after => files.Moved after ∧
      (result = -1 ∨ result = offset ∧ ∃ inode, files.inodes fd = some inode ∧
        after.descriptors fd = some ⟨inode, offset.toNat⟩) := by
  refine Secures.call here ⟨Files.Moved.refl files, .inl rfl⟩ fun outcome _ => ?_
  unfold Files.lseek
  cases opened : files.descriptors fd with
  | none => exact ⟨Files.Moved.refl files, .inl rfl⟩
  | some file =>
    have inode : files.inodes fd = some file.inode := by rw [Files.inodes, opened]; rfl
    dsimp only
    split
    · exact ⟨Files.Moved.refl files, .inl rfl⟩
    · exact ⟨Files.moved_of_inode inode _, .inr ⟨rfl, _, inode, Files.descriptor_self⟩⟩

/-- `lseek` to the end fails, or returns the length of an open file. -/
theorem lseek_finish (here : stopped files) :
    Secures (Posix.lseek fd 0 .finish) files stopped fun result after => files.Moved after ∧
      (result = -1 ∨ ∃ inode, files.inodes fd = some inode ∧
        result = (files.contents inode).length) := by
  refine Secures.call here ⟨Files.Moved.refl files, .inl rfl⟩ fun outcome _ => ?_
  unfold Files.lseek
  cases opened : files.descriptors fd with
  | none => exact ⟨Files.Moved.refl files, .inl rfl⟩
  | some file =>
    have inode : files.inodes fd = some file.inode := by rw [Files.inodes, opened]; rfl
    dsimp only
    split
    · exact ⟨Files.Moved.refl files, .inl rfl⟩
    · exact ⟨Files.moved_of_inode inode _, .inr ⟨_, inode, Int.add_zero _⟩⟩

/-- What a write of some bytes leaves: nothing has changed, or the first of the bytes have been
written where an open file stands. -/
def Wrote (files : Files ν) (fd : FD) (bytes : List UInt8) (result : Option Nat)
    (after : Files ν) : Prop :=
  result = none ∧ after = files ∨
    ∃ inode position written, files.descriptors fd = some ⟨inode, position⟩ ∧ written <+: bytes ∧
      result = some written.length ∧ (files.withContents inode
        (Bytes.writeAt (files.contents inode) position written)).Moved after

/-- `write`. -/
theorem write (here : stopped files) (bytes : List UInt8) :
    Secures (Posix.write fd bytes) files stopped (Wrote files fd bytes) := by
  refine Secures.call here (.inl ⟨rfl, rfl⟩) fun outcome _ => ?_
  unfold Files.write
  cases opened : files.descriptors fd with
  | none => exact .inl ⟨rfl, rfl⟩
  | some file =>
    have part : outcome.cut bytes <+: bytes := by
      cases outcome with
      | transfers most => exact List.take_prefix _ _
      | succeeds | fails => exact List.prefix_rfl
    have inode : (files.withContents file.inode (Bytes.writeAt (files.contents file.inode)
        file.position (outcome.cut bytes))).inodes fd = some file.inode := by
      rw [Files.withContents_inodes, Files.inodes, opened]
      rfl
    exact .inr ⟨file.inode, file.position, outcome.cut bytes, opened, part, rfl,
      Files.moved_of_inode inode _⟩

/-- `read` fails, or moves the first of the bytes that stand where an open file does. -/
theorem read (here : stopped files) (count : Nat) :
    Secures (Posix.read fd count) files stopped fun result after =>
      result = none ∧ after = files ∨ ∃ inode position bytes,
        files.descriptors fd = some ⟨inode, position⟩ ∧
        bytes <+: Bytes.readAt (files.contents inode) position count ∧ result = some bytes ∧
        after = files.withDescriptor fd (some ⟨inode, position + bytes.length⟩) := by
  refine Secures.call here (.inl ⟨rfl, rfl⟩) fun outcome _ => ?_
  by_cases large : 2 ^ 63 ≤ count
  · rw [if_pos large]
    exact .inl ⟨rfl, rfl⟩
  rw [if_neg large]
  cases opened : files.descriptors fd with
  | none =>
    left
    cases outcome with
    | _ => simp [Files.read, opened]
  | some file =>
    right
    have moves (most : Nat) (le : most ≤ count) : ∃ inode position bytes,
        some file = some (⟨inode, position⟩ : OpenFile) ∧
          bytes <+: Bytes.readAt (files.contents inode) position count ∧
          (files.read fd most).1 = some bytes ∧ (files.read fd most).2 =
            files.withDescriptor fd (some ⟨inode, position + bytes.length⟩) := by
      refine ⟨file.inode, file.position, Bytes.readAt (files.contents file.inode) file.position
        most, rfl, List.take_prefix_take_left le, ?_, ?_⟩
      · rw [Files.read, opened]
      · rw [Files.read, opened]
    cases outcome with
    | transfers most => exact moves _ (Nat.min_le_left _ _)
    | succeeds | fails => exact moves count le_rfl

/-- `read` leaves the files as they are. -/
theorem read_moves (here : stopped files) (count : Nat) :
    Secures (Posix.read fd count) files stopped fun _ after => files.Moved after := by
  refine (Secures.read here count).imp fun result after reads => ?_
  obtain ⟨-, rfl⟩ | ⟨inode, position, bytes, opened, -, -, rfl⟩ := reads
  · exact Files.Moved.refl _
  · refine Files.moved_of_inode ?_ _
    rw [Files.inodes, opened]
    rfl

/-- `ftruncate` fails, or gives an open file its length. -/
theorem ftruncate (here : stopped files) (length : Int) :
    Secures (Posix.ftruncate fd length) files stopped fun result after =>
      result = false ∧ after = files ∨ result = true ∧ ∃ inode, files.inodes fd = some inode ∧
        after = files.withContents inode (Bytes.resize (files.contents inode) length.toNat) := by
  refine Secures.call here (.inl ⟨rfl, rfl⟩) fun outcome _ => ?_
  unfold Files.ftruncate
  cases opened : files.descriptors fd with
  | none => exact .inl ⟨rfl, rfl⟩
  | some file =>
    have inode : files.inodes fd = some file.inode := by rw [Files.inodes, opened]; rfl
    dsimp only
    split
    · exact .inl ⟨rfl, rfl⟩
    · exact .inr ⟨rfl, file.inode, inode, rfl⟩

/-- `fsync` leaves the files as they are. -/
theorem fsync (here : stopped files) :
    Secures (Posix.fsync fd) files stopped fun _ after => after = files :=
  Secures.call here rfl fun _ _ => rfl

/-- `access` finds no file that is not there. -/
theorem access_missing (here : stopped files) (missing : files.names name = none) :
    Secures (Posix.access name) files stopped fun found after => found = false ∧ after = files :=
  Secures.call here ⟨rfl, rfl⟩ fun _ _ => ⟨by rw [missing]; rfl, rfl⟩

/-- `access` leaves the files as they are. -/
theorem access (here : stopped files) :
    Secures (Posix.access name) files stopped fun _ after => after = files :=
  Secures.call here rfl fun _ _ => rfl

/-- A file that is not there is created and opened, or is not. -/
theorem openFile_missing [DecidableEq ν] (here : stopped files)
    (missing : files.names name = none) :
    Secures (Posix.openFile name true) files stopped fun opened after =>
      opened = -1 ∧ after = files ∨ opened = (files.nextDescriptor : FD) ∧
        after = (files.created name).opened files.nextInode := by
  refine Secures.call here (.inl ⟨rfl, rfl⟩) fun outcome _ => .inr ?_
  simp [Files.openFile, missing]

/-- A file that is there is opened, or is not. -/
theorem openFile_found [DecidableEq ν] (here : stopped files) {inode : Nat}
    (found : files.names name = some inode) (create : Bool) :
    Secures (Posix.openFile name create) files stopped fun opened after =>
      opened = -1 ∧ after = files ∨
        opened = (files.nextDescriptor : FD) ∧ after = files.opened inode := by
  refine Secures.call here (.inl ⟨rfl, rfl⟩) fun outcome _ => .inr ?_
  simp [Files.openFile, found]

/-- A file is opened, and created if it is not there, or is not. -/
theorem openFile_create [DecidableEq ν] (here : stopped files) (sound : files.Sound) :
    Secures (Posix.openFile name true) files stopped fun opened after =>
      opened = -1 ∧ after = files ∨ opened = (files.nextDescriptor : FD) ∧
        ∃ inode, (∀ old, files.names name = some old → old = inode) ∧
          files.OpenedAs name inode after := by
  cases found : files.names name with
  | none =>
    refine (Secures.openFile_missing here found).imp fun opened after => Or.imp_right ?_
    rintro ⟨given, rfl⟩
    exact ⟨given, _, nofun, sound.openedAs_missing found⟩
  | some inode =>
    refine (Secures.openFile_found here found true).imp fun opened after => Or.imp_right ?_
    rintro ⟨given, rfl⟩
    exact ⟨given, inode, fun old same => (Option.some.inj same).symm, sound.openedAs_found found⟩

/-- A file is opened, or is not. -/
theorem openFile [DecidableEq ν] (here : stopped files) :
    Secures (Posix.openFile name false) files stopped fun opened after =>
      opened = -1 ∧ after = files ∨ opened = (files.nextDescriptor : FD) ∧
        ∃ inode, files.names name = some inode ∧ after = files.opened inode := by
  refine Secures.call here (.inl ⟨rfl, rfl⟩) fun outcome _ => ?_
  cases found : files.names name with
  | none => exact .inl (by simp [Files.openFile, found])
  | some inode => exact .inr (by simp [Files.openFile, found])

/-- A name is removed, or the files are as before. -/
theorem remove [DecidableEq ν] (here : stopped files) :
    Secures (Posix.remove name) files stopped fun _ after =>
      after = files ∨ after = { files with toDisk := files.toDisk.without name } := by
  refine Secures.call here (.inl rfl) fun outcome _ => ?_
  unfold Files.remove
  cases found : files.names name with
  | none => exact .inl rfl
  | some inode => exact .inr rfl

end Secures

end Posix
