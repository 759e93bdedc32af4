import Paxosme.Lib.Mishaps

/-!
# Calls that may fail

`Settles` is the rule for programs some of whose calls have to go through: it lists what is asked of
the outcome of each call, says what a program returns and leaves behind when the outcomes are so,
and what holds of whatever it returns and leaves when they are not. `Ends` is the rule for what
comes behind a call that has failed, and `Ensures` the one for what holds when a program returns at
all.
-/

namespace Posix

variable {ν : Type}

/-- What is asked of the outcome of a call. -/
inductive Demand where
  | any
  /-- The call does not fail. -/
  | runs
  /-- A read or a write may move so many bytes. -/
  | moves (count : Nat)
  | is (outcome : Outcome)
  deriving DecidableEq, Repr

/-- An outcome is as asked. -/
def Demand.Met : Demand → Outcome → Prop
  | .any, _ => True
  | .runs, outcome => outcome ≠ .fails
  | .moves _, .succeeds => True
  | .moves _, .fails => False
  | .moves count, .transfers most => count ≤ most
  | .is asked, outcome => outcome = asked

instance : ∀ (demand : Demand) (outcome : Outcome), Decidable (demand.Met outcome)
  | .any, _ => .isTrue trivial
  | .runs, _ => inferInstanceAs (Decidable (_ ≠ _))
  | .moves _, .succeeds => .isTrue trivial
  | .moves _, .fails => .isFalse id
  | .moves _, .transfers _ => inferInstanceAs (Decidable (_ ≤ _))
  | .is _, _ => inferInstanceAs (Decidable (_ = _))

/-- The first outcomes are as asked; all that are not listed are successes. -/
def Meets : List Demand → List Outcome → Prop
  | [], _ => True
  | demand :: demands, outcomes =>
    demand.Met (outcomes.headD .succeeds) ∧ Meets demands outcomes.tail

instance decidableMeets : ∀ (demands : List Demand) (outcomes : List Outcome),
    Decidable (Meets demands outcomes)
  | [], _ => .isTrue trivial
  | _ :: demands, outcomes =>
    have := decidableMeets demands outcomes.tail
    inferInstanceAs (Decidable (_ ∧ _))

theorem meets_append (early late : List Demand) (outcomes : List Outcome) :
    Meets (early ++ late) outcomes ↔
      Meets early outcomes ∧ Meets late (outcomes.drop early.length) := by
  induction early generalizing outcomes with
  | nil => simp [Meets]
  | cons demand early ih =>
    rw [List.cons_append, Meets, Meets, ih, List.length_cons, and_assoc]
    cases outcomes with
    | nil => simp
    | cons outcome outcomes => rfl

/-- The bytes that a write of some bytes moves. -/
def Outcome.moved (outcome : Outcome) (bytes : List UInt8) : List UInt8 :=
  if outcome = .fails then [] else outcome.cut bytes

theorem Outcome.length_moved_le (outcome : Outcome) (bytes : List UInt8) :
    (outcome.moved bytes).length ≤ bytes.length := by
  cases outcome with
  | succeeds => exact le_rfl
  | fails => exact Nat.zero_le _
  | transfers most => exact List.length_take_le' ..

/-- A write moves all bytes when it may. -/
theorem Demand.moved_of_moves {outcome : Outcome} {bytes : List UInt8}
    (met : (Demand.moves bytes.length).Met outcome) :
    outcome ≠ .fails ∧ outcome.moved bytes = bytes := by
  cases outcome with
  | succeeds => exact ⟨nofun, rfl⟩
  | fails => exact absurd met id
  | transfers most => exact ⟨nofun, List.take_of_length_le met⟩

/-- A write that may not move all bytes does not report so many. -/
theorem Demand.short_of_moves {outcome : Outcome} {bytes : List UInt8}
    (short : ¬ (Demand.moves bytes.length).Met outcome) :
    (if outcome = .fails then none else some (outcome.moved bytes).length) ≠
      some bytes.length := by
  cases outcome with
  | succeeds => exact absurd trivial short
  | fails => exact nofun
  | transfers most =>
    have few : most < bytes.length := Nat.lt_of_not_le short
    have less : ((Outcome.transfers most).moved bytes).length < bytes.length := by
      rw [Outcome.moved, if_neg nofun, Outcome.cut, List.length_take]
      omega
    rw [if_neg nofun]
    exact fun same => Nat.ne_of_lt less (Option.some.inj same)

variable {α β : Type}

/-- Whatever becomes of its calls, a program returns, and a condition holds of what it returns and
of the files that it leaves. -/
def Ends (program : Sys ν α) (files : Files ν) (post : α → Files ν → Prop) : Prop :=
  ∀ world : World ν, world.files = files → world.limit = none → ∃ result after,
    program world = (some result, after) ∧ after.limit = none ∧ post result after.files

section Ends

variable {first : Sys ν α} {next : α → Sys ν β} {files : Files ν} {mid : α → Files ν → Prop}
  {post : β → Files ν → Prop}

theorem Ends.pure {post : α → Files ν → Prop} {value : α} (holds : post value files) :
    Ends (Pure.pure value : Sys ν α) files post := by
  rintro world rfl endless
  exact ⟨value, world, rfl, endless, holds⟩

/-- One program and then another on its result. -/
theorem Ends.bind (ends : Ends first files mid)
    (second : ∀ result after, mid result after → Ends (next result) after post) :
    Ends (first >>= next) files post := by
  intro world start endless
  obtain ⟨result, middle, returned, endless', holds⟩ := ends world start endless
  rw [bind_apply, returned]
  exact second result middle.files holds middle rfl endless'

theorem Ends.close (fd : FD) (files : Files ν) :
    Ends (Posix.close fd) files fun _ after => after = files.withDescriptor fd none := by
  rintro world rfl endless
  exact ⟨(), _, close_returns fd endless, by simp [World.behind, endless], rfl⟩

end Ends

/-- When the outcomes of its calls are as asked, a program returns a value and leaves files of which
a condition holds; when they are not, another condition holds of what it returns and leaves. -/
structure Settles (program : Sys ν α) (files : Files ν) (outcomes : List Outcome)
    (demands : List Demand) (value : α) (post : Files ν → Prop) (bad : α → Files ν → Prop) :
    Prop where
  returns : Meets demands outcomes → ∀ world : World ν, world.files = files →
    world.limit = none → world.outcomes = outcomes → ∃ after overrun,
      program world = (some value,
        { world with files := after, outcomes := outcomes.drop demands.length, overrun }) ∧
      post after
  refuses : ¬ Meets demands outcomes → ∀ world : World ν, world.files = files →
    world.limit = none → world.outcomes = outcomes → ∃ result after,
      program world = (some result, after) ∧ after.limit = none ∧ bad result after.files

namespace Settles

variable {program first : Sys ν α} {next : α → Sys ν β} {files middle after : Files ν}
  {outcomes : List Outcome} {demands early late : List Demand} {demand : Demand} {value : α}
  {last : β} {mid : Files ν → Prop} {post : Files ν → Prop} {wrong : α → Files ν → Prop}
  {bad : β → Files ν → Prop}

theorem pure {mid : Files ν → Prop} (holds : mid files) :
    Settles (Pure.pure value : Sys ν α) files outcomes [] value mid wrong where
  returns := by
    rintro - world rfl endless rfl
    exact ⟨world.files, world.overrun, rfl, holds⟩
  refuses unmet := absurd trivial unmet

/-- One program and then another: what comes behind an unasked result has to be shown too. -/
theorem bind (settles : Settles first files outcomes early value mid wrong)
    (goes : ∀ result after, wrong result after → Ends (next result) after bad)
    (second : ∀ middle, mid middle →
      Settles (next value) middle (outcomes.drop early.length) late last post bad) :
    Settles (first >>= next) files outcomes (early ++ late) last post bad where
  returns := by
    intro met world start endless listed
    obtain ⟨here, there⟩ := (meets_append early late _).mp met
    obtain ⟨middle, overrun, returned, holds⟩ := settles.returns here world start endless listed
    obtain ⟨after, overrun', returned', holds'⟩ := (second middle holds).returns there
      { world with files := middle, outcomes := outcomes.drop early.length, overrun }
      rfl endless rfl
    refine ⟨after, overrun', ?_, holds'⟩
    rw [bind_apply, returned]
    dsimp only
    rw [returned', List.length_append, List.drop_drop]
  refuses := by
    intro unmet world start endless listed
    rw [bind_apply]
    by_cases here : Meets early outcomes
    · obtain ⟨middle, overrun, returned, holds⟩ := settles.returns here world start endless listed
      have there : ¬ Meets late (outcomes.drop early.length) := fun there =>
        unmet ((meets_append early late _).mpr ⟨here, there⟩)
      rw [returned]
      exact (second middle holds).refuses there _ rfl endless rfl
    · obtain ⟨result, after, returned, endless', unasked⟩ :=
        settles.refuses here world start endless listed
      rw [returned]
      exact goes result after.files unasked after rfl endless'

/-- One program and then something without a call. -/
theorem andReturn (settles : Settles first files outcomes early value mid wrong)
    (goes : ∀ result after, wrong result after → Ends (next result) after bad)
    (second : ∀ middle, mid middle →
      Settles (next value) middle (outcomes.drop early.length) [] last post bad) :
    Settles (first >>= next) files outcomes early last post bad := by
  have whole := settles.bind goes second
  rwa [List.append_nil] at whole

/-- One call and then the rest of a program. -/
theorem step (settles : Settles first files outcomes [demand] value (· = middle) wrong)
    (goes : ∀ result after, wrong result after → Ends (next result) after bad)
    (second : Settles (next value) middle outcomes.tail late last post bad) :
    Settles (first >>= next) files outcomes (demand :: late) last post bad := by
  refine settles.bind goes fun after same => ?_
  rw [same, List.length_singleton, List.drop_one]
  exact second

/-- Something without a call and then the rest of a program. -/
theorem skip (settles : Settles first files outcomes [] value (· = middle) fun _ _ => False)
    (second : Settles (next value) middle outcomes late last post bad) :
    Settles (first >>= next) files outcomes late last post bad :=
  settles.bind (fun _ _ => False.elim) fun _ same => same ▸ second

/-- One call that comes out as asked and then the rest of a program. -/
theorem pass (settles : Settles first files outcomes [demand] value (· = middle) fun _ _ => False)
    (second : Settles (next value) middle outcomes.tail late last post bad) :
    Settles (first >>= next) files outcomes (demand :: late) last post bad :=
  settles.step (fun _ _ => False.elim) second

/-- Where the outcomes are as asked nothing has to be known of others. -/
theorem of_met (settles : Settles program files outcomes demands value mid wrong)
    (met : Meets demands outcomes) :
    Settles program files outcomes demands value mid fun _ _ => False :=
  ⟨settles.returns, fun unmet => absurd met unmet⟩

/-- Weaker conditions on what is returned and left. -/
theorem imp {weak : Files ν → Prop} {weaker : α → Files ν → Prop}
    (settles : Settles program files outcomes demands value mid wrong)
    (left : ∀ after, mid after → weak after)
    (unasked : ∀ result after, wrong result after → weaker result after) :
    Settles program files outcomes demands value weak weaker where
  returns := by
    intro met world start endless listed
    obtain ⟨after, overrun, returned, holds⟩ := settles.returns met world start endless listed
    exact ⟨after, overrun, returned, left after holds⟩
  refuses := by
    intro unmet world start endless listed
    obtain ⟨result, after, returned, endless', holds⟩ :=
      settles.refuses unmet world start endless listed
    exact ⟨result, after, returned, endless', unasked result after.files holds⟩

theorem touch (size count : Nat) (files : Files ν) :
    Settles (Posix.touch size count) files outcomes [] () (· = files) fun _ _ => False where
  returns := by
    rintro - world rfl - rfl
    exact ⟨_, _, rfl, rfl⟩
  refuses unmet := absurd trivial unmet

/-- A call that returns what it does for every outcome as asked. -/
theorem call {failed : α} {effect : Outcome → Files ν → α × Files ν}
    (runs : ∀ outcome, demand.Met outcome →
      outcome ≠ .fails ∧ effect outcome files = (value, after))
    (fails : ¬ demand.Met .fails → wrong failed files)
    (short : ∀ outcome, ¬ demand.Met outcome → outcome ≠ .fails →
      wrong (effect outcome files).1 (effect outcome files).2) :
    Settles (Posix.call failed effect) files outcomes [demand] value (· = after) wrong where
  returns := by
    rintro ⟨met, -⟩ world rfl endless rfl
    rw [List.headD_eq_head?_getD, world.head_outcome] at met
    obtain ⟨goes, does⟩ := runs _ met
    refine ⟨after, world.overrun, ?_, rfl⟩
    rw [call_returns endless goes does, World.behind, List.length_singleton, List.drop_one]
  refuses := by
    rintro unmet world rfl endless rfl
    have unmet' : ¬ demand.Met (world.outcome 0) := fun met => unmet ⟨by
      rw [List.headD_eq_head?_getD, world.head_outcome]
      exact met, trivial⟩
    by_cases failing : world.outcome 0 = .fails
    · exact ⟨failed, _, Posix.call_fails endless failing, by simp [World.behind, endless],
        fails (failing ▸ unmet')⟩
    · exact ⟨_, _, call_returns endless failing rfl, by simp [World.behind, endless],
        short _ unmet' failing⟩

/-- A call that may not fail. -/
theorem call_runs {failed : α} {effect : Outcome → Files ν → α × Files ν}
    (does : ∀ outcome, effect outcome files = (value, after)) :
    Settles (Posix.call failed effect) files outcomes [.runs] value (· = after)
      fun result after => result = failed ∧ after = files :=
  call (fun outcome runs => ⟨runs, does outcome⟩) (fun _ => ⟨rfl, rfl⟩)
    fun _ unmet fails => absurd fails unmet

/-- A call that fails. -/
theorem call_fails {failed : α} {effect : Outcome → Files ν → α × Files ν}
    (fails : outcomes.headD .succeeds = .fails) :
    Settles (Posix.call failed effect) files outcomes [.is .fails] failed (· = files)
      fun _ _ => False where
  returns := by
    rintro - world rfl endless rfl
    rw [List.headD_eq_head?_getD, world.head_outcome] at fails
    refine ⟨world.files, world.overrun, ?_, rfl⟩
    rw [Posix.call_fails endless fails, World.behind, List.length_singleton, List.drop_one]
  refuses unmet := absurd ⟨fails, trivial⟩ unmet

theorem close (fd : FD) (files : Files ν) :
    Settles (Posix.close fd) files outcomes [.any] () (· = files.withDescriptor fd none)
      fun _ _ => False where
  returns := by
    rintro - world rfl endless rfl
    refine ⟨_, world.overrun, ?_, rfl⟩
    rw [close_returns fd endless, World.behind, List.length_singleton, List.drop_one]
  refuses unmet := absurd ⟨trivial, trivial⟩ unmet

variable {fd : FD} {inode position : Nat} {name : ν}

theorem lseek (opened : files.descriptors fd = some ⟨inode, position⟩) (offset : Nat) :
    Settles (Posix.lseek fd offset .start) files outcomes [.runs] (offset : Int)
      (· = files.withDescriptor fd (some ⟨inode, offset⟩))
      fun result after => result = -1 ∧ after = files :=
  call_runs fun outcome => by
    have inside : ¬ (offset : Int) < 0 := by omega
    simp [Files.lseek, opened, inside]

theorem lseek_finish (opened : files.descriptors fd = some ⟨inode, position⟩) :
    Settles (Posix.lseek fd 0 .finish) files outcomes [.runs] ((files.contents inode).length : Int)
      (· = files.withDescriptor fd (some ⟨inode, (files.contents inode).length⟩))
      fun result after => result = -1 ∧ after = files :=
  call_runs fun outcome => by
    have inside : ¬ ((files.contents inode).length : Int) < 0 := by omega
    simp [Files.lseek, opened, inside]

/-- A write of so many bytes has to move all of them; otherwise it has moved the first of them, or
none. -/
theorem write (opened : files.descriptors fd = some ⟨inode, position⟩) {bytes : List UInt8}
    {count : Nat} (length : bytes.length = count) :
    Settles (Posix.write fd bytes) files outcomes [.moves count] (some count)
      (· = (files.withContents inode
        (Bytes.writeAt (files.contents inode) position bytes)).withDescriptor fd
          (some ⟨inode, position + count⟩))
      fun result after => result ≠ some count ∧ ∃ written, written.length ≤ count ∧
        (files.withContents inode (Bytes.writeAt (files.contents inode) position written)).Moved
          after := by
  subst length
  have here : files.inodes fd = some inode := by rw [Files.inodes, opened]; rfl
  refine call (fun outcome met => ?_)
    (fun _ => ⟨(Option.some_ne_none _).symm, [], Nat.zero_le _, ?_⟩) fun outcome unmet runs => ?_
  · obtain ⟨runs, whole⟩ := Demand.moved_of_moves met
    rw [Outcome.moved, if_neg runs] at whole
    exact ⟨runs, by simp [Files.write, opened, whole]⟩
  · rw [Bytes.writeAt_nil, Files.withContents_self]
    exact Files.Moved.refl files
  · have short := Demand.short_of_moves unmet
    rw [Outcome.moved, if_neg runs, if_neg runs] at short
    have few := outcome.length_moved_le bytes
    rw [Outcome.moved, if_neg runs] at few
    refine ⟨by simpa [Files.write, opened] using short, outcome.cut bytes, few, ?_⟩
    simp only [Files.write, opened]
    exact Files.moved_of_inode (by rw [Files.withContents_inodes, here]) _

/-- A write that may move a part of its bytes, or none. -/
theorem write_some (opened : files.descriptors fd = some ⟨inode, position⟩) (bytes : List UInt8) :
    let outcome := outcomes.headD .succeeds
    Settles (Posix.write fd bytes) files outcomes [.any]
      (if outcome = .fails then none else some (outcome.moved bytes).length)
      (· = (files.withContents inode (Bytes.writeAt (files.contents inode) position
        (outcome.moved bytes))).withDescriptor fd
          (some ⟨inode, position + (outcome.moved bytes).length⟩)) fun _ _ => False where
  returns := by
    rintro - world rfl endless rfl
    rw [List.headD_eq_head?_getD, world.head_outcome]
    by_cases fails : world.outcome 0 = .fails
    · refine ⟨_, world.overrun, ?_, rfl⟩
      have same : (world.files.withContents inode (Bytes.writeAt (world.files.contents inode)
          position [])).withDescriptor fd (some ⟨inode, position⟩) = world.files := by
        rw [Bytes.writeAt_nil, Files.withContents_self, Files.withDescriptor, ← opened,
          Function.update_eq_self]
      rw [if_pos fails, Outcome.moved, if_pos fails, List.length_nil, Nat.add_zero, same,
        List.length_singleton, List.drop_one]
      exact Posix.call_fails endless fails
    · refine ⟨_, world.overrun, ?_, rfl⟩
      rw [if_neg fails, Outcome.moved, if_neg fails, write_returns endless fails opened,
        World.behind, List.length_singleton, List.drop_one]
  refuses unmet := absurd ⟨trivial, trivial⟩ unmet

theorem ftruncate (opened : files.descriptors fd = some ⟨inode, position⟩) (length : Nat) :
    Settles (Posix.ftruncate fd length) files outcomes [.runs] true
      (· = files.withContents inode (Bytes.resize (files.contents inode) length))
      fun result after => result = false ∧ after = files :=
  call_runs fun outcome => by
    have inside : ¬ (length : Int) < 0 := by omega
    simp [Files.ftruncate, opened, inside]

theorem fsync (opened : files.descriptors fd = some ⟨inode, position⟩) :
    Settles (Posix.fsync fd) files outcomes [.runs] true (· = files)
      fun result after => result = false ∧ after = files :=
  call_runs fun outcome => by simp [Files.fsync, opened]

/-- `access` finds no file when there is none or when it fails. -/
theorem access_not (name : ν) :
    Settles (Posix.access name) files outcomes
      [if files.view name = none then .any else .is .fails] false (· = files)
      fun found after => found = true ∧ after = files := by
  cases there : files.names name with
  | none =>
    rw [if_pos (Disk.view_eq_none.mpr there)]
    refine ⟨?_, fun unmet => absurd ⟨trivial, trivial⟩ unmet⟩
    rintro - world rfl endless rfl
    refine ⟨world.files, world.overrun, ?_, rfl⟩
    rw [List.length_singleton, List.drop_one]
    by_cases fails : world.outcome 0 = .fails
    · exact Posix.call_fails endless fails
    · exact call_returns endless fails (by simp [there])
  | some inode =>
    rw [if_neg (by rw [Disk.view_of_name there]; exact Option.some_ne_none _)]
    constructor
    · rintro ⟨fails, -⟩ world rfl endless rfl
      rw [List.headD_eq_head?_getD, world.head_outcome] at fails
      refine ⟨world.files, world.overrun, ?_, rfl⟩
      rw [List.length_singleton, List.drop_one]
      exact Posix.call_fails endless fails
    · rintro unmet world rfl endless rfl
      have runs : world.outcome 0 ≠ .fails := fun fails => unmet ⟨by
        rw [List.headD_eq_head?_getD, world.head_outcome]
        exact fails, trivial⟩
      exact ⟨true, _, call_returns endless runs (by simp [there]), by simp [World.behind, endless],
        rfl, rfl⟩

/-- A file is opened, and created if it is not there. -/
theorem openFile [DecidableEq ν] (sound : files.Sound) (name : ν) :
    Settles (Posix.openFile name true) files outcomes [.runs] (files.nextDescriptor : FD)
      (fun after => ∃ inode, files.OpenedAs name inode after)
      fun result after => result = -1 ∧ after = files := by
  cases there : files.names name with
  | none =>
    have opens : Settles (Posix.openFile name true) files outcomes [.runs]
        (files.nextDescriptor : FD) (· = (files.created name).opened files.nextInode) _ :=
      call_runs fun outcome => by simp [Files.openFile, there]
    refine opens.imp (fun after same => ?_) fun _ _ => id
    rw [same]
    exact ⟨_, sound.openedAs_missing there⟩
  | some inode =>
    have opens : Settles (Posix.openFile name true) files outcomes [.runs]
        (files.nextDescriptor : FD) (· = files.opened inode) _ :=
      call_runs fun outcome => by simp [Files.openFile, there]
    refine opens.imp (fun after same => ?_) fun _ _ => id
    rw [same]
    exact ⟨inode, sound.openedAs_found there⟩

end Settles

/-- Whatever a program returns when its calls go through, a condition holds of that and of the
files that it leaves. -/
def Ensures (program : Sys ν α) (files : Files ν) (post : α → Files ν → Prop) : Prop :=
  ∀ world : World ν, world.files = files → world.outcomes = [] → world.limit = none →
    ∀ value, (program world).1 = some value → post value (program world).2.files

section Ensures

variable {program first : Sys ν α} {next : α → Sys ν β} {files : Files ν} {value : α}
  {mid : Files ν → Prop} {post : α → Files ν → Prop} {goal : β → Files ν → Prop}

theorem Ensures.run (ensures : Ensures program files post) {after : Files ν}
    (returned : program.run files = (some value, after)) : post value after := by
  obtain ⟨found, left⟩ := Prod.mk.inj returned
  rw [← left]
  exact ensures { files } rfl rfl rfl value found

/-- A weaker condition on what is returned. -/
theorem Ensures.imp {weak : α → Files ν → Prop} (ensures : Ensures program files post)
    (weaker : ∀ value after, post value after → weak value after) : Ensures program files weak :=
  fun world start none endless value returned =>
    weaker value _ (ensures world start none endless value returned)

theorem Ensures.pure (holds : post value files) : Ensures (pure value : Sys ν α) files post := by
  rintro world rfl - - other returned
  obtain rfl := Option.some.inj returned
  exact holds

/-- A program that returns and then another one. -/
theorem Completes.ensures (completes : Completes first files value mid)
    (second : ∀ middle, mid middle → Ensures (next value) middle goal) :
    Ensures (first >>= next) files goal := by
  intro world start none endless
  obtain ⟨passed, middle, performs, holds⟩ := completes
  obtain ⟨overrun, returned⟩ := performs.returns world start (fun i _ => by simp [none])
    (fun limit limited => by simp [endless] at limited)
  rw [bind_apply, returned]
  exact second middle holds _ rfl (by simp [World.after, none]) (by simp [World.after, endless])

theorem Stuck.ensures (stuck : Stuck program files) : Ensures program files post := by
  intro world start none endless value returned
  rw [stuck world start none endless] at returned
  cases returned

/-- What holds whatever becomes of the calls holds when they go through. -/
theorem Secures.ensures {stopped : Files ν → Prop} (secures : Secures program files stopped post) :
    Ensures program files post :=
  fun world start _ _ value returned => (secures world start).1 value returned

end Ensures

end Posix
