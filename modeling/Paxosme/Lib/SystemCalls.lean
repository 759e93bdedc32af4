import Paxosme.Lib.Files

/-!
# System calls

A program is a sequence of system calls; the world it runs in decides for each call whether it
goes through, fails, or (for a read or a write) transfers only part, and after how many calls the
process stops.

`Performs` is the rule for programs whose calls go through: it says what a program returns, what
it leaves on the disk, and what a process leaves there that stops before one of its calls.
`Achieves` and `Completes` keep of the files that are left what a caller needs.
-/

namespace Posix

variable {ν : Type}

/-- What becomes of a system call. -/
inductive Outcome where
  | succeeds
  | fails
  /-- A read or a write moves at most so many bytes; any other call succeeds. -/
  | transfers (most : Nat)
  deriving DecidableEq, Repr

/-- The part of some bytes that a call moves. -/
def Outcome.cut : Outcome → List UInt8 → List UInt8
  | .transfers most, bytes => bytes.take most
  | _, bytes => bytes

/-- The files, and what becomes of the calls to come: the first ones as listed, all others
succeed. -/
structure World (ν : Type) where
  files : Files ν
  outcomes : List Outcome := []
  /-- How many more calls the process makes before it stops. -/
  limit : Option Nat := none
  /-- Whether the process has read or written behind the end of a buffer, or has made one without
  having the memory for it; nothing is known then of what it does. -/
  overrun : Bool := false

/-- A program that makes system calls; it gives no result when the process stops before it does. -/
def Sys (ν α : Type) : Type := World ν → Option α × World ν

variable {α β : Type}

/-- A program that makes no call. -/
def Sys.pure (value : α) : Sys ν α := fun world => (some value, world)

/-- One program and then another on its result. -/
def Sys.bind (first : Sys ν α) (next : α → Sys ν β) : Sys ν β := fun world =>
  match first world with
  | (some value, world) => next value world
  | (none, world) => (none, world)

instance : Monad (Sys ν) where
  pure := Sys.pure
  bind := Sys.bind

/-- The process stops. -/
def Sys.stop : Sys ν α := fun world => (none, world)

/-- A program in a world in which every call goes through. -/
def Sys.run (program : Sys ν α) (files : Files ν) : Option α × Files ν :=
  let (result, world) := program { files }
  (result, world.files)

/-- Bytes of a buffer are used from its start up to a count. -/
def touch (size count : Nat) : Sys ν Unit := fun world =>
  (some (), { world with overrun := world.overrun || decide (size < count) })

/-- One system call. -/
def call (failed : α) (effect : Outcome → Files ν → α × Files ν) : Sys ν α := fun world =>
  if world.limit = some 0 then (none, world)
  else
    let outcome := world.outcomes.headD .succeeds
    let rest := { world with
      outcomes := world.outcomes.tail
      limit := world.limit.map fun count => count - 1 }
    if outcome = .fails then (some failed, rest)
    else
      let (result, files) := effect outcome rest.files
      (some result, { rest with files })

/-- `stat`, for the kind of the path; a failing call reports that nothing is there. -/
def stat : Sys ν PathKind := call .absent fun _ files => (files.path, files)

/-- `mkdir`. -/
def mkdir : Sys ν Bool := call false fun _ files => files.mkdir

/-- `open`. -/
def openFile [DecidableEq ν] (name : ν) (create : Bool) : Sys ν FD :=
  call (-1) fun _ files => files.openFile name create

/-- `close`, whose result no caller looks at: the descriptor is gone even when the call fails. -/
def close (fd : FD) : Sys ν Unit := fun world =>
  if world.limit = some 0 then (none, world)
  else (some (), { world with
    files := world.files.withDescriptor fd none
    outcomes := world.outcomes.tail
    limit := world.limit.map fun count => count - 1 })

/-- `lseek`. -/
def lseek (fd : FD) (offset : Int) (whence : Files.Whence) : Sys ν Int :=
  call (-1) fun _ files => files.lseek fd offset whence

/-- `read`, with nothing for −1, which is the result for a count above `SSIZE_MAX`. -/
def read (fd : FD) (count : Nat) : Sys ν (Option (List UInt8)) :=
  call none fun outcome files =>
    if 2 ^ 63 ≤ count then (none, files)
    else match outcome with
      | .transfers most => files.read fd (min count most)
      | _ => files.read fd count

/-- `write`, with nothing for −1. -/
def write (fd : FD) (bytes : List UInt8) : Sys ν (Option Nat) :=
  call none fun outcome files => files.write fd (outcome.cut bytes)

/-- `ftruncate`. -/
def ftruncate (fd : FD) (length : Int) : Sys ν Bool :=
  call false fun _ files => files.ftruncate fd length

/-- `fsync`. -/
def fsync (fd : FD) : Sys ν Bool := call false fun _ files => (files.fsync fd, files)

/-- `access` for the existence of a name. -/
def access (name : ν) : Sys ν Bool := call false fun _ files => ((files.names name).isSome, files)

/-- `remove`. -/
def remove [DecidableEq ν] (name : ν) : Sys ν Bool := call false fun _ files => files.remove name

@[simp] theorem pure_apply (value : α) (world : World ν) :
    (pure value : Sys ν α) world = (some value, world) := rfl

@[simp] theorem bind_apply (first : Sys ν α) (next : α → Sys ν β) (world : World ν) :
    (first >>= next) world = match first world with
      | (some value, world) => next value world
      | (none, world) => (none, world) := rfl

@[simp] theorem ite_apply {condition : Prop} [Decidable condition] (first second : Sys ν α)
    (world : World ν) :
    (if condition then first else second) world =
      if condition then first world else second world := by
  split <;> rfl

/-! ## One call at a time -/

/-- What becomes of a call to come. -/
def World.outcome (world : World ν) (index : Nat) : Outcome := world.outcomes.getD index .succeeds

/-- The world behind one call of a process that does not stop. -/
def World.behind (world : World ν) (files : Files ν) : World ν :=
  { world with files, outcomes := world.outcomes.tail }

@[simp] theorem World.behind_outcome (world : World ν) (files : Files ν) (index : Nat) :
    (world.behind files).outcome index = world.outcome (index + 1) := by
  cases calls : world.outcomes <;> simp [World.behind, World.outcome, calls]

theorem World.head_outcome (world : World ν) :
    world.outcomes.head?.getD .succeeds = world.outcome 0 := by
  simp [World.outcome, List.head?_eq_getElem?]

theorem call_fails {failed : α} {effect : Outcome → Files ν → α × Files ν} {world : World ν}
    (endless : world.limit = none) (fails : world.outcome 0 = .fails) :
    call failed effect world = (some failed, world.behind world.files) := by
  simp [call, World.behind, endless, world.head_outcome, fails]

theorem call_returns {failed value : α} {effect : Outcome → Files ν → α × Files ν}
    {world : World ν} {after : Files ν} (endless : world.limit = none)
    (runs : world.outcome 0 ≠ .fails)
    (does : effect (world.outcome 0) world.files = (value, after)) :
    call failed effect world = (some value, world.behind after) := by
  simp [call, World.behind, endless, world.head_outcome, runs, does]

/-- Using a buffer leaves nothing but the mark of an overrun. -/
theorem touch_returns (size count : Nat) {world : World ν} (endless : world.limit = none) :
    ∃ after : World ν, touch size count world = (some (), after) ∧ after.files = world.files ∧
      after.outcome = world.outcome ∧ after.limit = none :=
  ⟨_, rfl, rfl, rfl, endless⟩

theorem close_returns (fd : FD) {world : World ν} (endless : world.limit = none) :
    close fd world = (some (), world.behind (world.files.withDescriptor fd none)) := by
  simp [close, World.behind, endless]

theorem lseek_returns {fd : FD} {world : World ν} {inode position : Nat}
    (endless : world.limit = none) (runs : world.outcome 0 ≠ .fails)
    (opened : world.files.descriptors fd = some ⟨inode, position⟩) (offset : Nat) :
    lseek fd offset .start world =
      (some (offset : Int), world.behind (world.files.withDescriptor fd (some ⟨inode, offset⟩))) := by
  have inside : ¬ (offset : Int) < 0 := by omega
  exact call_returns endless runs (by simp [Files.lseek, opened, inside])

theorem write_returns {fd : FD} {world : World ν} {inode position : Nat}
    (endless : world.limit = none) (runs : world.outcome 0 ≠ .fails)
    (opened : world.files.descriptors fd = some ⟨inode, position⟩) (bytes : List UInt8) :
    write fd bytes world = (some (some ((world.outcome 0).cut bytes).length),
      world.behind ((world.files.withContents inode (Bytes.writeAt (world.files.contents inode)
        position ((world.outcome 0).cut bytes))).withDescriptor fd
          (some ⟨inode, position + ((world.outcome 0).cut bytes).length⟩))) :=
  call_returns endless runs (by simp [Files.write, opened])

/-! ## Programs whose calls go through -/

/-- The next calls go through, as many as counted. -/
def World.Goes (world : World ν) (count : Nat) : Prop :=
  ∀ i < count, world.outcomes.getD i .succeeds = .succeeds

/-- The world after a number of calls. -/
def World.after (world : World ν) (count : Nat) (files : Files ν) (overrun : Bool) : World ν where
  files := files
  outcomes := world.outcomes.drop count
  limit := world.limit.map fun limit => limit - count
  overrun := overrun

/-- While its calls go through, a program returns a value and leaves files behind. A process that
stops early leaves the disk that it has come to: `passed` lists the disk before each call. -/
structure Performs (program : Sys ν α) (files : Files ν) (passed : List (Disk ν)) (value : α)
    (after : Files ν) : Prop where
  /-- The program returns when the process makes all its calls. -/
  returns : ∀ world : World ν, world.files = files → world.Goes passed.length →
    (∀ limit, world.limit = some limit → passed.length ≤ limit) →
    ∃ overrun, program world = (some value, world.after passed.length after overrun)
  /-- A process that stops in the middle has made the calls before. -/
  stops : ∀ (world : World ν) (limit : Nat), world.files = files → world.Goes passed.length →
    world.limit = some limit → ∀ inside : limit < passed.length,
      (program world).1 = none ∧ (program world).2.files.toDisk = passed[limit]

section Performs

variable {files middle after : Files ν} {passed later : List (Disk ν)} {value : α} {last : β}
  {world : World ν} {program : Sys ν α}

theorem World.after_after (first second : Nat) (early late : Bool) :
    (world.after first files early).after second after late =
      world.after (first + second) after late := by
  cases limit : world.limit with
  | none => simp [World.after, limit, List.drop_drop]
  | some count => simp [World.after, limit, List.drop_drop, Nat.sub_sub]

theorem World.after_zero (overrun : Bool) :
    world.after 0 world.files overrun = { world with overrun } := by
  cases limit : world.limit <;> simp [World.after, limit]

/-- What goes on for a while goes on for the rest of it. -/
theorem World.Goes.rest {first count : Nat} (goes : world.Goes (first + count)) (overrun : Bool) :
    (world.after first files overrun).Goes count := by
  intro i inside
  have here := goes (first + i) (by omega)
  simpa [World.after, List.getD_eq_getElem?_getD, List.getElem?_drop] using here

theorem World.Goes.mono {few many : Nat} (goes : world.Goes many) (le : few ≤ many) :
    world.Goes few :=
  fun i inside => goes i (by omega)

/-- Calls go through that are listed to. -/
theorem World.goes_of_replicate {many count : Nat} {rest : List Outcome}
    (listed : world.outcomes = List.replicate many .succeeds ++ rest) (le : count ≤ many) :
    world.Goes count := by
  intro i inside
  have first : i < (List.replicate many Outcome.succeeds).length := by
    rw [List.length_replicate]
    omega
  rw [listed, List.getD_eq_getElem?_getD, List.getElem?_append_left first,
    List.getElem?_replicate_of_lt (by omega), Option.getD_some]

/-- In a world in which every call goes through a program returns. -/
theorem Performs.run (performs : Performs program files passed value after) :
    program.run files = (some value, after) := by
  obtain ⟨overrun, returned⟩ := performs.returns { files } rfl (fun i _ => by simp)
    (fun limit limited => by simp at limited)
  rw [Sys.run, returned]
  rfl

theorem Performs.pure (value : α) : Performs (pure value : Sys ν α) files [] value files where
  returns := by
    rintro world rfl _ _
    exact ⟨world.overrun, by rw [pure_apply, List.length_nil, World.after_zero]⟩
  stops _ _ _ _ _ inside := absurd inside (Nat.not_lt_zero _)

/-- One program and then another pass the disks of both. -/
theorem Performs.bind {first : Sys ν α} {next : α → Sys ν β}
    (performs : Performs first files passed value middle)
    (second : Performs (next value) middle later last after) :
    Performs (first >>= next) files (passed ++ later) last after where
  returns := by
    intro world start goes enough
    rw [List.length_append] at goes enough
    obtain ⟨overrun, early⟩ := performs.returns world start (goes.mono (by omega))
      fun limit limited => by have := enough limit limited; omega
    obtain ⟨overrun', late⟩ := second.returns (world.after passed.length middle overrun) rfl
      (goes.rest overrun) fun limit limited => by
        obtain ⟨total, limited', rfl⟩ : ∃ total, world.limit = some total ∧
            total - passed.length = limit := by simpa [World.after] using limited
        have := enough total limited'
        omega
    refine ⟨overrun', ?_⟩
    rw [bind_apply, early]
    simp only [late, World.after_after, List.length_append]
  stops := by
    intro world limit start goes limited inside
    rw [List.length_append] at goes inside
    by_cases early : limit < passed.length
    · have stopped := performs.stops world limit start (goes.mono (by omega)) limited early
      rw [bind_apply, List.getElem_append_left early]
      cases result : first world with
      | mk found after =>
        rw [result] at stopped
        obtain ⟨rfl, disk⟩ := stopped
        exact ⟨rfl, disk⟩
    · obtain ⟨overrun, returned⟩ := performs.returns world start (goes.mono (by omega))
        fun total same => by
          obtain rfl : limit = total := by simpa [limited] using same
          omega
      have stopped := second.stops (world.after passed.length middle overrun)
        (limit - passed.length) rfl (goes.rest overrun) (by simp [World.after, limited]) (by omega)
      rw [bind_apply, returned, List.getElem_append_right (by omega)]
      exact stopped

/-- While its calls go through, a program passes some disks, returns a value and leaves files of
which a condition holds. -/
def Achieves (program : Sys ν α) (files : Files ν) (passed : List (Disk ν)) (value : α)
    (post : Files ν → Prop) : Prop :=
  ∃ after, Performs program files passed value after ∧ post after

/-- While its calls go through, a program returns a value and leaves files of which a condition
holds. -/
def Completes (program : Sys ν α) (files : Files ν) (value : α) (post : Files ν → Prop) : Prop :=
  ∃ passed, Achieves program files passed value post

section Rules

variable {first : Sys ν α} {next : α → Sys ν β} {disk : Disk ν} {mid post : Files ν → Prop}

theorem Achieves.pure (value : α) (holds : post files) :
    Achieves (Pure.pure value : Sys ν α) files [] value post :=
  ⟨files, Performs.pure value, holds⟩

/-- One call and then the rest of a program. -/
theorem Performs.step (performs : Performs first files [disk] value middle)
    (second : Achieves (next value) middle later last post) :
    Achieves (first >>= next) files (disk :: later) last post :=
  let ⟨after, second, holds⟩ := second
  ⟨after, performs.bind second, holds⟩

/-- One call on a disk known by another name and then the rest of a program. -/
theorem Performs.stepOn {other : Disk ν} (performs : Performs first files [disk] value middle)
    (same : disk = other) (second : Achieves (next value) middle later last post) :
    Achieves (first >>= next) files (other :: later) last post :=
  same ▸ performs.step second

/-- One call at the end of a program. -/
theorem Performs.final {other : Disk ν} (performs : Performs first files [disk] value after)
    (same : disk = other) (holds : post after) : Achieves first files [other] value post :=
  ⟨after, same ▸ performs, holds⟩

theorem Performs.skip (performs : Performs first files [] value middle)
    (second : Achieves (next value) middle later last post) :
    Achieves (first >>= next) files later last post :=
  let ⟨after, second, holds⟩ := second
  ⟨after, performs.bind second, holds⟩

theorem Achieves.bind (achieves : Achieves first files passed value mid)
    (second : ∀ middle, mid middle → Achieves (next value) middle later last post) :
    Achieves (first >>= next) files (passed ++ later) last post :=
  let ⟨middle, performs, holds⟩ := achieves
  let ⟨after, second, holds⟩ := second middle holds
  ⟨after, performs.bind second, holds⟩

theorem Completes.pure (value : α) (holds : post files) :
    Completes (Pure.pure value : Sys ν α) files value post :=
  ⟨_, Achieves.pure value holds⟩

theorem Performs.andThen (performs : Performs first files passed value middle)
    (second : Completes (next value) middle last post) :
    Completes (first >>= next) files last post :=
  let ⟨_, after, second, holds⟩ := second
  ⟨_, after, performs.bind second, holds⟩

theorem Completes.imp (completes : Completes program files value mid)
    (weaker : ∀ after, mid after → post after) : Completes program files value post :=
  let ⟨_, after, performs, holds⟩ := completes
  ⟨_, after, performs, weaker after holds⟩

theorem Completes.bind (completes : Completes first files value mid)
    (second : ∀ middle, mid middle → Completes (next value) middle last post) :
    Completes (first >>= next) files last post :=
  let ⟨_, middle, performs, holds⟩ := completes
  performs.andThen (second middle holds)

/-- One program and then another whose result is only known to exist. -/
theorem Completes.bind_exists {γ : Type} {wrap : γ → β} {posts : γ → Files ν → Prop}
    (completes : Completes first files value mid) (second : ∀ middle, mid middle →
      ∃ last, Completes (next value) middle (wrap last) (posts last)) :
    ∃ last, Completes (first >>= next) files (wrap last) (posts last) :=
  let ⟨_, middle, performs, holds⟩ := completes
  let ⟨last, second⟩ := second middle holds
  ⟨last, performs.andThen second⟩

/-- A program completes when what it returns and leaves is known. -/
theorem Performs.completes (performs : Performs program files passed value after) :
    Completes program files value (· = after) :=
  ⟨_, _, performs, rfl⟩

theorem Completes.run (completes : Completes program files value post) :
    ∃ after, program.run files = (some value, after) ∧ post after :=
  let ⟨_, after, performs, holds⟩ := completes
  ⟨after, performs.run, holds⟩

/-- A process that makes so many calls of a program has come to the disk before the next one, or
has been given the result. -/
theorem Achieves.limited (achieves : Achieves program files passed value post) (calls : Nat) :
    (∃ disk, passed[calls]? = some disk ∧ (program { files, limit := some calls }).1 = none ∧
      (program { files, limit := some calls }).2.files.toDisk = disk) ∨
    (passed[calls]? = none ∧ (program { files, limit := some calls }).1 = some value ∧
      post (program { files, limit := some calls }).2.files) := by
  obtain ⟨after, performs, holds⟩ := achieves
  have goes : ∀ count, ({ files, limit := some calls } : World ν).Goes count :=
    fun count i _ => by simp
  rcases Nat.lt_or_ge calls passed.length with inside | outside
  · obtain ⟨stopped, disk⟩ := performs.stops _ calls rfl (goes _) rfl inside
    exact Or.inl ⟨_, List.getElem?_eq_getElem inside, stopped, disk⟩
  · obtain ⟨overrun, returned⟩ := performs.returns { files, limit := some calls } rfl (goes _)
      fun limit limited => by
        obtain rfl : calls = limit := by simpa using limited
        exact outside
    refine Or.inr ⟨List.getElem?_eq_none outside, ?_, ?_⟩
    · rw [returned]
    · rw [returned]
      exact holds

/-- While its calls go through, a program gives no result. -/
def Stuck (program : Sys ν α) (files : Files ν) : Prop :=
  ∀ world : World ν, world.files = files → world.outcomes = [] → world.limit = none →
    (program world).1 = none

theorem Stuck.stop : Stuck (Sys.stop : Sys ν α) files := fun _ _ _ _ => rfl

theorem Stuck.run (stuck : Stuck program files) : (program.run files).1 = none :=
  stuck { files } rfl rfl rfl

theorem Stuck.bind (stuck : Stuck first files) : Stuck (first >>= next) files := by
  intro world start none endless
  have early := stuck world start none endless
  cases result : first world with
  | mk found after =>
    rw [result] at early
    obtain rfl : found = Option.none := early
    rw [bind_apply, result]

/-- A program that returns and then another that gives no result. -/
theorem Completes.stuck (completes : Completes first files value mid)
    (second : ∀ middle, mid middle → Stuck (next value) middle) : Stuck (first >>= next) files := by
  intro world start none endless
  obtain ⟨passed, middle, performs, holds⟩ := completes
  obtain ⟨overrun, returned⟩ := performs.returns world start (fun i _ => by simp [none])
    (fun limit limited => by simp [endless] at limited)
  rw [bind_apply, returned]
  exact second middle holds _ rfl (by simp [World.after, none]) (by simp [World.after, endless])

end Rules

/-- A call that goes through passes the disk it starts on. -/
theorem Performs.call {failed : α} {effect : Outcome → Files ν → α × Files ν}
    (does : effect .succeeds files = (value, after)) :
    Performs (Posix.call failed effect) files [files.toDisk] value after where
  returns := by
    rintro world rfl goes enough
    have here : world.outcomes.head?.getD .succeeds = .succeeds := by
      simpa [List.getD_eq_getElem?_getD, ← List.head?_eq_getElem?] using goes 0 (by simp)
    have running : world.limit ≠ some 0 := fun stopped => by
      have := enough 0 stopped
      simp at this
    exact ⟨world.overrun, by simp [Posix.call, World.after, here, running, does]⟩
  stops := by
    rintro world limit rfl goes limited inside
    obtain rfl : limit = 0 := by simpa using inside
    simp [Posix.call, limited]

theorem Performs.touch (size count : Nat) : Performs (touch size count) files [] () files where
  returns := by
    rintro world rfl _ _
    exact ⟨_, by rw [List.length_nil, World.after_zero]; rfl⟩
  stops _ _ _ _ _ inside := absurd inside (Nat.not_lt_zero _)

theorem Performs.close (fd : FD) :
    Performs (close fd) files [files.toDisk] () (files.withDescriptor fd none) where
  returns := by
    rintro world rfl _ enough
    have running : world.limit ≠ some 0 := fun stopped => by
      have := enough 0 stopped
      simp at this
    exact ⟨world.overrun, by simp [Posix.close, World.after, running]⟩
  stops := by
    rintro world limit rfl _ limited inside
    obtain rfl : limit = 0 := by simpa using inside
    simp [Posix.close, limited]

/-- The end of a program that has opened a file and closes it again. -/
theorem Files.Sound.close_returns (sound : files.Sound) (inode : Nat) (value : α)
    (disk : after.toDisk = files.toDisk)
    (open_ : after.inodes = Function.update files.inodes files.nextDescriptor (some inode))
    (next : after.nextDescriptor = files.nextDescriptor + 1) :
    Completes (Posix.close files.nextDescriptor >>= fun _ => pure value) after value
      files.Unchanged :=
  (Performs.close _).andThen (Completes.pure _ (sound.unchanged_closed disk open_ next))

theorem Performs.stat : Performs stat files [files.toDisk] files.path files := Performs.call rfl

theorem Performs.mkdir (absent : files.path = .absent) :
    Performs mkdir files [files.toDisk] true { files with path := .directory } :=
  Performs.call (by simp [Files.mkdir, absent])

theorem Performs.access (name : ν) :
    Performs (access name) files [files.toDisk] (files.names name).isSome files :=
  Performs.call rfl

theorem Performs.openFile [DecidableEq ν] {name : ν} {inode : Nat}
    (found : files.names name = some inode) (create : Bool) :
    Performs (openFile name create) files [files.toDisk] files.nextDescriptor
      (files.opened inode) :=
  Performs.call (by simp [Files.openFile, found])

theorem Performs.openFile_missing [DecidableEq ν] {name : ν}
    (missing : files.names name = none) :
    Performs (Posix.openFile name true) files [files.toDisk] files.nextDescriptor
      ((files.created name).opened files.nextInode) :=
  Performs.call (by simp [Files.openFile, missing])

/-- `open` with `O_CREAT`. -/
theorem Files.Sound.openFile_create [DecidableEq ν] (sound : files.Sound) (name : ν) :
    Completes (Posix.openFile name true) files files.nextDescriptor
      fun after => ∃ inode, files.OpenedAs name inode after := by
  cases there : files.names name with
  | none =>
    exact ⟨_, _, Performs.openFile_missing there, _, sound.openedAs_missing there⟩
  | some inode => exact ⟨_, _, Performs.openFile there true, _, sound.openedAs_found there⟩

theorem Performs.remove [DecidableEq ν] {name : ν} {inode : Nat}
    (found : files.names name = some inode) :
    Performs (remove name) files [files.toDisk] true
      { files with toDisk := files.toDisk.without name } :=
  Performs.call (by simp [Files.remove, found])

section Descriptor

variable {fd : FD} {inode position : Nat}

theorem Performs.lseek (opened : files.descriptors fd = some ⟨inode, position⟩) (offset : Nat) :
    Performs (lseek fd offset .start) files [files.toDisk] offset
      (files.withDescriptor fd (some ⟨inode, offset⟩)) := by
  have inside : ¬ (offset : Int) < 0 := by omega
  exact Performs.call (by simp [Files.lseek, opened, inside])

theorem Performs.lseek_before (opened : files.descriptors fd = some ⟨inode, position⟩)
    {offset : Int} (before : offset < 0) :
    Performs (Posix.lseek fd offset .start) files [files.toDisk] (-1) files :=
  Performs.call (by simp [Files.lseek, opened, before])

theorem Performs.lseek_finish (opened : files.descriptors fd = some ⟨inode, position⟩) :
    Performs (Posix.lseek fd 0 .finish) files [files.toDisk] (files.contents inode).length
      (files.withDescriptor fd (some ⟨inode, (files.contents inode).length⟩)) := by
  have inside : ¬ ((files.contents inode).length : Int) < 0 := by omega
  exact Performs.call (by simp [Files.lseek, opened, inside])

theorem Performs.read (bytes : List UInt8)
    (opened : files.descriptors fd = some ⟨inode, position⟩)
    (holds : files.contents inode = bytes) {count : Nat} (small : count < 2 ^ 63) :
    Performs (read fd count) files [files.toDisk] (some (Bytes.readAt bytes position count))
      (files.withDescriptor fd (some ⟨inode,
        position + (Bytes.readAt bytes position count).length⟩)) :=
  Performs.call (by rw [if_neg (Nat.not_le.mpr small)]; simp [Files.read, opened, holds])

theorem Performs.read_large {count : Nat} (large : 2 ^ 63 ≤ count) :
    Performs (Posix.read fd count) files [files.toDisk] none files :=
  Performs.call (if_pos large)

theorem Performs.write (opened : files.descriptors fd = some ⟨inode, position⟩)
    (bytes : List UInt8) :
    Performs (write fd bytes) files [files.toDisk] (some bytes.length)
      ((files.withContents inode (Bytes.writeAt (files.contents inode) position
        bytes)).withDescriptor fd (some ⟨inode, position + bytes.length⟩)) :=
  Performs.call (by simp [Files.write, Outcome.cut, opened])

theorem Performs.ftruncate (opened : files.descriptors fd = some ⟨inode, position⟩)
    (length : Nat) :
    Performs (ftruncate fd length) files [files.toDisk] true
      (files.withContents inode (Bytes.resize (files.contents inode) length)) := by
  have inside : ¬ (length : Int) < 0 := by omega
  exact Performs.call (by simp [Files.ftruncate, opened, inside])

theorem Performs.fsync (opened : files.descriptors fd = some ⟨inode, position⟩) :
    Performs (fsync fd) files [files.toDisk] true files :=
  Performs.call (by simp [Files.fsync, opened])

theorem Performs.lseek_closed (closed : files.inodes fd = none) (offset : Int) :
    Performs (Posix.lseek fd offset .start) files [files.toDisk] (-1) files := by
  have none : files.descriptors fd = none := Option.map_eq_none_iff.mp closed
  exact Performs.call (by simp [Files.lseek, none])

theorem Performs.ftruncate_closed (closed : files.inodes fd = none) (length : Int) :
    Performs (Posix.ftruncate fd length) files [files.toDisk] false files := by
  have none : files.descriptors fd = none := Option.map_eq_none_iff.mp closed
  exact Performs.call (by simp [Files.ftruncate, none])

end Descriptor

end Performs

end Posix
