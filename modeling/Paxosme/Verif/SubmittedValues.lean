import Paxosme.Lib.Runs
import Paxosme.Core.ProposalProv

/-!
# Submitted values and their results

Any number of client threads submit values, and the proposer flushes values and writes results,
in any order. A flush does not mark the value that it delivers, so the next one delivers it again,
and a result is never written. Nobody is served, but for a client that waits under the index that
`finish_index_` holds from the start: it returns at once, without a result.
-/

namespace Paxosme
namespace SubmittedValues

/-- A client thread in the wait of `SubmitAndWait`. -/
structure Waiter where
  /-- The thread. -/
  client : Nat
  /-- How many values were taken before its own. -/
  number : Nat
  /-- The index that it waits for. -/
  index : Index

/-- The provider with the threads that wait at it, and what has happened. -/
structure System where
  /-- The provider. -/
  prov : ProposalProv
  /-- The waiting threads. -/
  waiting : List Waiter := []
  /-- The values that the queue took, oldest first. A value is named by its place here. -/
  taken : List LogValue := []
  /-- How many values have been popped: the place of the value at the front. -/
  popped : Nat := 0
  /-- The values that were flushed. -/
  flushes : List Nat := []
  /-- The results that were written, each with its value. -/
  results : List (Nat × PendingResult) := []
  /-- The results that were returned, each with the value of the thread. -/
  returns : List (Nat × PendingResult) := []

/-- A step of a client thread, or of the proposer. -/
inductive Event where
  /-- A thread submits a value. -/
  | submitAndWait (client : Nat) (value : LogValue)
  /-- A waiting thread looks at its condition. -/
  | wake (client : Nat)
  /-- The proposer asks for a value. -/
  | flush (instanceId : InstanceId)
  /-- The proposer, or its timer, writes a result. -/
  | writeResult (chosen : LogValue) (instanceId : InstanceId) (result : PendingResult)

namespace System

/-- A thread leaves `SubmitAndWait`. -/
def leave (system : System) (number : Nat) : System :=
  let (prov, result) := system.prov.submitted
  { system with
    prov
    popped := system.popped + 1
    returns := system.returns ++ [(number, result)] }

/-- The thread waits already. -/
def Waits (system : System) (client : Nat) : Prop :=
  ∃ waiter ∈ system.waiting, waiter.client = client

instance instDecidableWaits (system : System) (client : Nat) : Decidable (system.Waits client) :=
  inferInstanceAs (Decidable (∃ waiter ∈ system.waiting, _))

/-- One step. A thread whose condition holds when it comes to the wait does not wait. -/
def step (system : System) : Event → System
  | .submitAndWait client value =>
    if system.Waits client then system
    else match system.prov.submitAndWait value with
      | (prov, none) => { system with prov }
      | (prov, some index) =>
        let number := system.taken.length
        let system := { system with prov, taken := system.taken ++ [value] }
        if prov.finishIndex = index then system.leave number
        else { system with waiting := system.waiting ++ [⟨client, number, index⟩] }
  | .wake client =>
    match system.waiting.find? fun waiter => waiter.client = client with
    | none => system
    | some waiter =>
      if system.prov.finishIndex = waiter.index then
        leave { system with
          waiting := system.waiting.filter fun other => other.client ≠ client } waiter.number
      else system
  | .flush instanceId =>
    match system.prov.flush instanceId with
    | (prov, none) => { system with prov }
    | (prov, some _) => { system with prov, flushes := system.flushes ++ [system.popped] }
  | .writeResult chosen instanceId result =>
    match system.prov.writeResult chosen instanceId result with
    | (prov, false) => { system with prov }
    | (prov, true) =>
      { system with
        prov
        results := system.results ++ (prov.queue.head?.toList.map fun front =>
          (system.popped, ProposalProv.resultFor front.logValue chosen result)) }

/-- The value that was flushed last has no result yet. -/
def Outstanding (system : System) (number : Nat) : Prop :=
  system.flushes.getLast? = some number ∧ ∀ result, (number, result) ∉ system.results

/-- What is asked of a step. -/
def Serves (system : System) : Event → Prop
  /- A thread returns what has been recorded for its own value. -/
  | .submitAndWait client value =>
    ∀ entry ∈ (system.step (.submitAndWait client value)).returns.drop system.returns.length,
      entry ∈ system.results
  | .wake client =>
    ∀ entry ∈ (system.step (.wake client)).returns.drop system.returns.length,
      entry ∈ system.results
  /- Values are flushed in the order in which they were submitted, and a value is flushed again
  only after a result has been written for it. -/
  | .flush instanceId =>
    ∀ value, (system.prov.flush instanceId).2 = some value →
      system.taken[system.popped]? = some value ∧
        (∀ number ∈ system.flushes, number ≤ system.popped) ∧
        (system.popped ∈ system.flushes → ∃ result, (system.popped, result) ∈ system.results)
  /- A result is recorded on the value that was flushed, and the condition of exactly the thread
  that submitted it becomes true. -/
  | .writeResult chosen instanceId result =>
    ∀ number, system.Outstanding number →
      (system.prov.writeResult chosen instanceId result).2 = true ∧
        (∀ value, system.taken[number]? = some value →
          ((system.prov.writeResult chosen instanceId result).1.queue[number - system.popped]?).map
              PendingNewValue.newValueResult =
            some (ProposalProv.resultFor value chosen result)) ∧
        ∀ waiter ∈ system.waiting,
          (system.prov.writeResult chosen instanceId result).1.finishIndex = waiter.index ↔
            waiter.number = number

/-- The condition: one flush at most finds a value, no result is written after it, and no value
is taken under the index that `finish_index_` holds. -/
def Spares (system : System) : Event → Prop
  | .submitAndWait client _ =>
    ¬ system.Waits client → system.prov.queue.length < system.prov.limit →
      system.prov.index ≠ system.prov.finishIndex
  | .wake _ => True
  | .flush _ => system.prov.queue ≠ [] → system.flushes = []
  | .writeResult .. => system.flushes = []

/-- No client has come yet. -/
def start (index finishIndex : Index) (limit : Nat) : System :=
  { prov := { index, finishIndex, limit } }

/-- Nobody has been served: the queue holds every value taken, none of them marked, and no
condition of a waiting thread holds. -/
structure Unserved (system : System) : Prop where
  /-- Nothing has been popped. -/
  popped : system.popped = 0
  /-- No result has been written. -/
  results : system.results = []
  /-- Only the first value can have been flushed. -/
  flushes : system.flushes = [] ∨ system.flushes = [0] ∧ system.prov.queue ≠ []
  /-- No value is marked. -/
  unmarked : system.prov.Unmarked
  /-- The queue holds the values taken. -/
  queue : system.prov.queue.map PendingNewValue.logValue = system.taken
  /-- No thread can go on. -/
  waiting : ∀ waiter ∈ system.waiting, system.prov.finishIndex ≠ waiter.index

/-- At the start nobody has been served. -/
theorem unserved_start (index finishIndex : Index) (limit : Nat) :
    Unserved (start index finishIndex limit) :=
  ⟨rfl, rfl, .inl rfl, by simp [start, ProposalProv.Unmarked], rfl, by simp [start]⟩

section Steps

variable {system : System}

/-- A value that is taken while nobody is served under its index waits. -/
theorem step_submitAndWait (client : Nat) (value : LogValue) (free : ¬ system.Waits client) :
    system.step (.submitAndWait client value) =
      if system.prov.queue.length < system.prov.limit then
        if system.prov.finishIndex = system.prov.index then
          leave { system with
            prov := (system.prov.submitAndWait value).1
            taken := system.taken ++ [value] } system.taken.length
        else
          { system with
            prov := (system.prov.submitAndWait value).1
            taken := system.taken ++ [value]
            waiting := system.waiting ++ [⟨client, system.taken.length, system.prov.index⟩] }
      else { system with prov := (system.prov.submitAndWait value).1 } := by
  rw [step, if_neg free, ProposalProv.submitAndWait_eq]
  by_cases room : system.prov.queue.length < system.prov.limit
  · rw [if_pos room, if_pos room]
  · rw [if_neg room, if_neg room]

/-- A thread that looks at its condition goes on waiting. -/
theorem Unserved.step_wake (unserved : Unserved system) (client : Nat) :
    system.step (.wake client) = system := by
  cases found : system.waiting.find? fun waiter => waiter.client = client with
  | none => simp only [step, found]
  | some waiter =>
    have waits := unserved.waiting waiter (List.mem_of_find?_eq_some found)
    simp only [step, found, if_neg waits]

/-- A flush delivers the first value taken, if there is one. -/
theorem Unserved.step_flush (unserved : Unserved system) (instanceId : InstanceId) :
    system.step (.flush instanceId) =
      { system with
        flushes := system.flushes ++ (system.prov.queue.head?.toList.map fun _ => 0) } := by
  rw [step, ProposalProv.flush_unmarked _ unserved.unmarked]
  cases system.prov.queue with
  | nil => simp
  | cons front rest => simp [unserved.popped]

/-- A result is not written. -/
theorem Unserved.step_writeResult (unserved : Unserved system) (chosen : LogValue)
    (instanceId : InstanceId) (result : PendingResult) :
    system.step (.writeResult chosen instanceId result) = system := by
  rw [step, ProposalProv.writeResult_unmarked _ unserved.unmarked]

/-- One more value in the queue leaves it unmarked. -/
theorem Unserved.taking (unserved : Unserved system) (value : LogValue)
    (room : system.prov.queue.length < system.prov.limit)
    (other : system.prov.finishIndex ≠ system.prov.index) (client : Nat) :
    Unserved
      { system with
        prov := (system.prov.submitAndWait value).1
        taken := system.taken ++ [value]
        waiting := system.waiting ++ [⟨client, system.taken.length, system.prov.index⟩] } := by
  rw [ProposalProv.submitAndWait_eq, if_pos room]
  refine ⟨unserved.popped, unserved.results, ?_, ?_, ?_, ?_⟩
  · exact unserved.flushes.imp_right fun both =>
      ⟨both.1, List.append_ne_nil_of_left_ne_nil both.2 _⟩
  · intro pending member
    rcases List.mem_append.mp member with old | new
    · exact unserved.unmarked pending old
    · rw [List.mem_singleton.mp new]
  · simp [unserved.queue]
  · intro waiter member
    rcases List.mem_append.mp member with old | new
    · exact unserved.waiting waiter old
    · rw [List.mem_singleton.mp new]
      exact other

/-- A step that meets the condition serves nobody. -/
theorem Unserved.step (unserved : Unserved system) (event : Event) (spares : system.Spares event) :
    Unserved (system.step event) := by
  cases event with
  | submitAndWait client value =>
    by_cases waits : system.Waits client
    · rw [System.step, if_pos waits]
      exact unserved
    · rw [step_submitAndWait client value waits]
      by_cases room : system.prov.queue.length < system.prov.limit
      · have other := (spares waits room).symm
        rw [if_pos room, if_neg other]
        exact unserved.taking value room other client
      · rw [if_neg room, ProposalProv.submitAndWait_eq, if_neg room]
        exact ⟨unserved.popped, unserved.results, unserved.flushes, unserved.unmarked,
          unserved.queue, unserved.waiting⟩
  | wake client =>
    rw [unserved.step_wake]
    exact unserved
  | flush instanceId =>
    rw [unserved.step_flush]
    refine ⟨unserved.popped, unserved.results, ?_, unserved.unmarked, unserved.queue,
      unserved.waiting⟩
    cases queued : system.prov.queue with
    | nil => simpa [queued] using unserved.flushes
    | cons front rest =>
      right
      rw [spares (by simp [queued])]
      exact ⟨rfl, by simp⟩
  | writeResult chosen instanceId result =>
    rw [unserved.step_writeResult]
    exact unserved

/-- While nobody has been served a step does what is asked exactly when it meets the
condition. -/
theorem Unserved.served_iff (unserved : Unserved system) (event : Event) :
    system.Serves event ↔ system.Spares event := by
  cases event with
  | submitAndWait client value =>
    simp only [Serves, Spares]
    by_cases waits : system.Waits client
    · rw [System.step, if_pos waits, List.drop_length]
      exact ⟨fun _ free => absurd waits free, by simp⟩
    · rw [step_submitAndWait client value waits]
      by_cases room : system.prov.queue.length < system.prov.limit
      · by_cases same : system.prov.finishIndex = system.prov.index
        · -- the thread returns at once, and nothing has been recorded for its value
          rw [if_pos room, if_pos same]
          constructor
          · intro serves
            have recorded := serves (system.taken.length, _) (by
              rw [leave, List.drop_left]
              exact List.mem_singleton.mpr rfl)
            rw [unserved.results] at recorded
            exact absurd recorded List.not_mem_nil
          · intro spares
            exact absurd same (spares waits room).symm
        · rw [if_pos room, if_neg same, List.drop_length]
          exact ⟨fun _ _ _ => Ne.symm same, by simp⟩
      · rw [if_neg room, List.drop_length]
        exact ⟨fun _ _ here => absurd here room, by simp⟩
  | wake client =>
    simp only [Serves, Spares]
    rw [unserved.step_wake, List.drop_length]
    simp
  | flush instanceId =>
    simp only [Serves, Spares]
    rw [ProposalProv.flush_unmarked _ unserved.unmarked, unserved.popped, unserved.results]
    cases queued : system.prov.queue with
    | nil => simp
    | cons front rest =>
      have first : system.taken[0]? = some front.logValue := by
        rw [← unserved.queue, queued]
        rfl
      constructor
      · intro serves _
        obtain ⟨_, _, again⟩ := serves front.logValue rfl
        rcases unserved.flushes with none | ⟨one, _⟩
        · exact none
        · obtain ⟨result, recorded⟩ := again (by simp [one])
          exact absurd recorded List.not_mem_nil
      · intro spares value delivered
        rw [spares (List.cons_ne_nil _ _)]
        simp only [List.head?_cons, Option.map_some, Option.some.injEq] at delivered
        rw [← delivered]
        exact ⟨first, by simp, by simp⟩
  | writeResult chosen instanceId result =>
    simp only [Serves, Spares]
    rw [ProposalProv.writeResult_unmarked _ unserved.unmarked]
    constructor
    · intro serves
      rcases unserved.flushes with none | ⟨one, _⟩
      · exact none
      · have outstanding : system.Outstanding 0 := ⟨by simp [one], by simp [unserved.results]⟩
        exact absurd (serves 0 outstanding).1 Bool.false_ne_true
    · intro none number outstanding
      rw [Outstanding, none] at outstanding
      exact absurd outstanding.1 (by simp)

end Steps

end System

/-- **Clients get their own results exactly in the runs in which none can be due.** -/
theorem serves_iff (index finishIndex : Index) (limit : Nat) (events : List Event) :
    Runs.Along System.step System.Serves (System.start index finishIndex limit) events ↔
      Runs.Along System.step System.Spares (System.start index finishIndex limit) events :=
  Runs.along_congr (fun _ event unserved => System.Unserved.served_iff unserved event)
    (fun _ event unserved spares => unserved.step event spares) _ _
    (System.unserved_start index finishIndex limit)

/-- A value is submitted and flushed, and the result that is written for it is lost. -/
theorem serves_lost :
    ¬ Runs.Along System.step System.Serves (System.start 0 5 10)
      [.submitAndWait 0 [42], .flush 1, .writeResult [42] 1 .kValueAccepted] := by
  rintro ⟨_, _, serves, _⟩
  have outstanding : System.Outstanding
      (System.step (System.step (System.start 0 5 10) (.submitAndWait 0 [42])) (.flush 1)) 0 :=
    ⟨by decide, fun _ recorded => absurd recorded List.not_mem_nil⟩
  exact absurd (serves 0 outstanding).1 (by decide)

end SubmittedValues
end Paxosme
