import Paxosme.Lib.SystemCalls

/-!
# Uses of buffers

`Marks` is the rule for programs all of whose calls go through: it says what a program returns and
leaves behind, and whether it has used bytes behind the end of a buffer on its way.
-/

namespace Posix

variable {ν α β γ : Type}

/-- Programs are put together in any order. -/
theorem Sys.bind_assoc (first : Sys ν α) (second : α → Sys ν β) (third : β → Sys ν γ) :
    first >>= second >>= third = first >>= fun value => second value >>= third := by
  funext world
  simp only [bind_apply]
  cases first world with
  | mk found after => cases found <;> rfl

theorem Sys.ite_bind {condition : Prop} [Decidable condition] (first second : Sys ν α)
    (next : α → Sys ν β) :
    (if condition then first else second) >>= next =
      if condition then first >>= next else second >>= next :=
  apply_ite (· >>= next) condition first second

/-- While all calls go through, a program returns a value, leaves files behind and overruns a
buffer, or does not. -/
def Marks (program : Sys ν α) (files : Files ν) (overrun : Bool) (value : α) (after : Files ν) :
    Prop :=
  ∀ world : World ν, world.files = files → world.outcomes = [] → world.limit = none →
    program world =
      (some value, { world with files := after, overrun := world.overrun || overrun })

/-- While all calls go through, a program overruns a buffer or does not, returns a value and leaves
files of which a condition holds. -/
def Uses (program : Sys ν α) (files : Files ν) (overrun : Bool) (value : α)
    (post : Files ν → Prop) : Prop :=
  ∃ after, Marks program files overrun value after ∧ post after

section Marks

variable {program first : Sys ν α} {next : α → Sys ν β} {files middle after : Files ν}
  {early late : Bool} {value : α} {last : β} {fd : FD} {inode position : Nat}
  {mid post : Files ν → Prop}

theorem Uses.run (uses : Uses program files early value post) :
    (program { files }).1 = some value ∧ (program { files }).2.overrun = early := by
  obtain ⟨after, marks, -⟩ := uses
  rw [marks { files } rfl rfl rfl, Bool.false_or]
  exact ⟨rfl, rfl⟩

theorem Uses.pure (value : α) (holds : post files) :
    Uses (pure value : Sys ν α) files false value post := by
  refine ⟨files, ?_, holds⟩
  rintro world rfl - -
  rw [Bool.or_false]
  rfl

/-- One program and then another overrun when one of them does. -/
theorem Uses.bind (uses : Uses first files early value mid)
    (second : ∀ middle, mid middle → Uses (next value) middle late last post) :
    Uses (first >>= next) files (early || late) last post := by
  obtain ⟨middle, marks, holds⟩ := uses
  obtain ⟨after, marks', holds'⟩ := second middle holds
  refine ⟨after, ?_, holds'⟩
  intro world start none endless
  have returned := marks' { world with files := middle, overrun := world.overrun || early } rfl none
    endless
  rw [Bool.or_assoc] at returned
  rw [bind_apply, marks world start none endless]
  exact returned

/-- A program that stays inside its buffers and then another. -/
theorem Uses.step (uses : Uses first files false value mid)
    (second : ∀ middle, mid middle → Uses (next value) middle late last post) :
    Uses (first >>= next) files late last post :=
  uses.bind second

/-- A program that leaves known files and then another. -/
theorem Marks.andThen (marks : Marks first files early value middle)
    (second : Uses (next value) middle late last post) :
    Uses (first >>= next) files (early || late) last post :=
  Uses.bind ⟨middle, marks, rfl⟩ fun _ same => same ▸ second

theorem Marks.step (marks : Marks first files false value middle)
    (second : Uses (next value) middle late last post) :
    Uses (first >>= next) files late last post :=
  marks.andThen second

theorem Marks.touch (size count : Nat) (files : Files ν) :
    Marks (Posix.touch size count) files (decide (size < count)) () files := by
  rintro world rfl - -
  rfl

theorem Marks.call {failed : α} {effect : Outcome → Files ν → α × Files ν}
    (does : effect .succeeds files = (value, after)) :
    Marks (Posix.call failed effect) files false value after := by
  rintro world rfl none endless
  have goes : world.outcome 0 ≠ .fails := by simp [World.outcome, none]
  have does' : effect (world.outcome 0) world.files = (value, after) := by
    simpa [World.outcome, none] using does
  rw [call_returns endless goes does', World.behind, none, Bool.or_false, List.tail_nil]

theorem Marks.close (fd : FD) (files : Files ν) :
    Marks (Posix.close fd) files false () (files.withDescriptor fd none) := by
  rintro world rfl none endless
  rw [close_returns fd endless, World.behind, none, Bool.or_false, List.tail_nil]

/-- A program that closes a descriptor and returns. -/
theorem Uses.closed (fd : FD) (value : α) (holds : post (files.withDescriptor fd none)) :
    Uses (Posix.close fd >>= fun _ => Pure.pure value) files false value post :=
  (Marks.close fd files).step (Uses.pure value holds)

theorem Marks.access {name : ν} : Marks (access name) files false (files.names name).isSome files :=
  Marks.call rfl

theorem Marks.openFile [DecidableEq ν] {name : ν} {inode : Nat}
    (found : files.names name = some inode) (create : Bool) :
    Marks (openFile name create) files false files.nextDescriptor (files.opened inode) :=
  Marks.call (by simp [Files.openFile, found])

theorem Marks.openFile_missing [DecidableEq ν] {name : ν} (missing : files.names name = none) :
    Marks (Posix.openFile name false) files false (-1) files :=
  Marks.call (by simp [Files.openFile, missing])

/-- `lseek` to an offset before the start fails. -/
theorem Marks.lseek_before (opened : files.descriptors fd = some ⟨inode, position⟩) {offset : Int}
    (before : offset < 0) : Marks (lseek fd offset .start) files false (-1) files :=
  Marks.call (by simp [Files.lseek, opened, before])

theorem Marks.lseek (opened : files.descriptors fd = some ⟨inode, position⟩) (offset : Nat) :
    Marks (Posix.lseek fd offset .start) files false offset
      (files.withDescriptor fd (some ⟨inode, offset⟩)) := by
  have inside : ¬ (offset : Int) < 0 := by omega
  exact Marks.call (by simp [Files.lseek, opened, inside])

theorem Marks.read (opened : files.descriptors fd = some ⟨inode, position⟩) {count : Nat}
    (small : count < 2 ^ 63) :
    Marks (Posix.read fd count) files false
      (some (((files.contents inode).drop position).take count))
      (files.withDescriptor fd
        (some ⟨inode, position + (((files.contents inode).drop position).take count).length⟩)) :=
  Marks.call (by rw [if_neg (Nat.not_le.mpr small)]; simp [Files.read, opened, Bytes.readAt])

theorem Marks.read_large {count : Nat} (large : 2 ^ 63 ≤ count) :
    Marks (Posix.read fd count) files false none files :=
  Marks.call (if_pos large)

end Marks

end Posix
