import Mathlib.Order.Basic
import Mathlib.Data.List.Basic
import Mathlib.Data.List.Induction

/-!
# Runs of a machine

A machine is a function that takes a state and an event to the next state. A condition on a
state and the event that meets it may be asked of every step of a run; the rules of this module
turn what one step does into what a whole run does. An invariant needs the condition only where
it holds already, a measure that no step lowers does not fall between two states of a run, and
two conditions that agree under an invariant agree along every run.
-/

namespace Runs

variable {σ ε : Type*} (step : σ → ε → σ)

/-- The state after a list of events. -/
def run (start : σ) (events : List ε) : σ := events.foldl step start

/-- Every step of a run meets a condition. -/
def Along (condition : σ → ε → Prop) : σ → List ε → Prop
  | _, [] => True
  | start, event :: events => condition start event ∧ Along condition (step start event) events

instance decidableAlong (condition : σ → ε → Prop)
    [∀ state event, Decidable (condition state event)] :
    ∀ (start : σ) (events : List ε), Decidable (Along step condition start events)
  | _, [] => .isTrue trivial
  | start, event :: events =>
    have := decidableAlong condition (step start event) events
    inferInstanceAs (Decidable (condition start event ∧ Along step condition (step start event)
      events))

@[simp] theorem run_nil (start : σ) : run step start [] = start := rfl

@[simp] theorem run_cons (start : σ) (event : ε) (events : List ε) :
    run step start (event :: events) = run step (step start event) events := rfl

/-- A run of two lists is a run of the first and then of the second. -/
theorem run_append (start : σ) (first second : List ε) :
    run step start (first ++ second) = run step (run step start first) second :=
  List.foldl_append

/-- One more event is one more step. -/
theorem run_concat (start : σ) (events : List ε) (event : ε) :
    run step start (events ++ [event]) = step (run step start events) event := by
  rw [run_append, run_cons, run_nil]

variable {step} {condition : σ → ε → Prop} {Inv : σ → Prop}

/-- The steps of a run of two lists are those of the first and those of the second. -/
theorem along_append (start : σ) (first second : List ε) :
    Along step condition start (first ++ second) ↔
      Along step condition start first ∧ Along step condition (run step start first) second := by
  induction first generalizing start with
  | nil => simp [Along]
  | cons event events ih => simp only [List.cons_append, Along, ih, run_cons, and_assoc]

/-- The condition holds along a run exactly when it holds wherever the run is cut. -/
theorem along_iff (start : σ) (events : List ε) :
    Along step condition start events ↔
      ∀ earlier event later, events = earlier ++ event :: later →
        condition (run step start earlier) event := by
  constructor
  · rintro along earlier event later rfl
    have rest := ((along_append start earlier (event :: later)).mp along).2
    exact rest.1
  · intro everywhere
    induction events generalizing start with
    | nil => trivial
    | cons event events ih =>
      refine ⟨everywhere [] event events rfl, ih _ fun earlier later rest split => ?_⟩
      exact everywhere (event :: earlier) later rest (by rw [split, List.cons_append])

/-- Every state of a run is good exactly when the first one is and every step ends in one. -/
theorem always_iff {Good : σ → Prop} (start : σ) (events : List ε) :
    (∀ earlier later, events = earlier ++ later → Good (run step start earlier)) ↔
      Good start ∧ Along step (fun state event => Good (step state event)) start events := by
  constructor
  · intro always
    refine ⟨always [] events rfl, (along_iff start events).mpr ?_⟩
    intro earlier event later split
    rw [← run_concat step]
    exact always (earlier ++ [event]) later (by rw [split, List.append_assoc]; rfl)
  · rintro ⟨first, along⟩ earlier later split
    induction earlier using List.reverseRecOn with
    | nil => exact first
    | append_singleton earlier event _ =>
      rw [run_concat]
      refine (along_iff start events).mp along earlier event later ?_
      rw [split, List.append_assoc]
      rfl

/-- An invariant that every step meeting the condition keeps holds at the end of a run. -/
theorem Along.invariant (keeps : ∀ state event, Inv state → condition state event →
    Inv (step state event)) {start : σ} {events : List ε}
    (along : Along step condition start events) (holds : Inv start) :
    Inv (run step start events) := by
  induction events generalizing start with
  | nil => exact holds
  | cons event events ih => exact ih along.2 (keeps start event holds along.1)

/-- An invariant that every step keeps holds at the end of every run. -/
theorem invariant (keeps : ∀ state event, Inv state → Inv (step state event)) (start : σ)
    (events : List ε) (holds : Inv start) : Inv (run step start events) := by
  induction events generalizing start with
  | nil => exact holds
  | cons event events ih => exact ih _ (keeps start event holds)

/-- Along a run whose steps meet a condition that keeps an invariant, every condition holds that
the two give. -/
theorem Along.imp {first second : σ → ε → Prop}
    (keeps : ∀ state event, Inv state → first state event → Inv (step state event))
    (gives : ∀ state event, Inv state → first state event → second state event) {start : σ}
    {events : List ε} (along : Along step first start events) (holds : Inv start) :
    Along step second start events := by
  induction events generalizing start with
  | nil => trivial
  | cons event events ih =>
    exact ⟨gives start event holds along.1, ih along.2 (keeps start event holds along.1)⟩

/-- Two conditions that agree under an invariant, which the steps meeting them keep, hold along
the same runs. -/
theorem along_congr {first second : σ → ε → Prop}
    (agree : ∀ state event, Inv state → (first state event ↔ second state event))
    (keeps : ∀ state event, Inv state → second state event → Inv (step state event))
    (start : σ) (events : List ε) (holds : Inv start) :
    Along step first start events ↔ Along step second start events := by
  induction events generalizing start with
  | nil => exact Iff.rfl
  | cons event events ih =>
    constructor
    · rintro ⟨here, rest⟩
      have met := (agree start event holds).mp here
      exact ⟨met, (ih _ (keeps start event holds met)).mp rest⟩
    · rintro ⟨here, rest⟩
      exact ⟨(agree start event holds).mpr here,
        (ih _ (keeps start event holds here)).mpr rest⟩

/-- A machine that may stop goes on through a run whose steps meet a condition under which no step
stops and an invariant is kept. -/
theorem Along.goes_on {step : σ → ε → Option σ} {events : List ε}
    (keeps : ∀ state, ∀ event ∈ events, Inv state → condition state event →
      ∃ next, step state event = some next ∧ Inv next) {start : σ}
    (along : Along (fun state event => state.bind (step · event))
      (fun state event => ∀ current ∈ state, condition current event) (some start) events)
    (holds : Inv start) :
    ∃ last, run (fun state event => state.bind (step · event)) (some start) events = some last ∧
      Inv last := by
  induction events generalizing start with
  | nil => exact ⟨start, rfl, holds⟩
  | cons event events ih =>
    obtain ⟨here, rest⟩ := along
    obtain ⟨next, stepped, holds'⟩ := keeps start event List.mem_cons_self holds (here start rfl)
    dsimp only at rest
    rw [Option.bind_some, stepped] at rest
    obtain ⟨last, ran, holds''⟩ :=
      ih (fun state event member => keeps state event (List.mem_cons_of_mem _ member)) rest holds'
    refine ⟨last, ?_, holds''⟩
    rw [run_cons, Option.bind_some, stepped]
    exact ran

/-- A machine that may stop goes on through every run when under an invariant no step stops and the
invariant is kept. -/
theorem goes_on {step : σ → ε → Option σ}
    (keeps : ∀ state event, Inv state → ∃ next, step state event = some next ∧ Inv next) {start : σ}
    (holds : Inv start) (events : List ε) :
    ∃ last, run (fun state event => state.bind (step · event)) (some start) events = some last ∧
      Inv last := by
  have always : Along (fun state event => state.bind (step · event))
      (fun state event => ∀ current ∈ state, (fun _ _ => True) current event) (some start) events :=
    (along_iff _ _).mpr fun _ _ _ _ _ _ => trivial
  exact always.goes_on (fun state event _ holds _ => keeps state event holds) holds

/-- A machine that has stopped stays so. -/
theorem run_none (step : σ → ε → Option σ) (events : List ε) :
    run (fun state event => state.bind (step · event)) none events = none := by
  induction events with
  | nil => rfl
  | cons event events ih => exact ih

/-- A machine that may stop keeps an invariant in the states that it reaches. -/
theorem reached {step : σ → ε → Option σ}
    (keeps : ∀ state event next, Inv state → step state event = some next → Inv next) {start last : σ}
    (holds : Inv start) {events : List ε}
    (ran : run (fun state event => state.bind (step · event)) (some start) events = some last) :
    Inv last := by
  induction events generalizing start with
  | nil =>
    obtain rfl := Option.some.inj ran
    exact holds
  | cons event events ih =>
    rw [run_cons, Option.bind_some] at ran
    cases stepped : step start event with
    | none =>
      rw [stepped, run_none] at ran
      cases ran
    | some next =>
      rw [stepped] at ran
      exact ih (keeps start event next holds stepped) ran

/-- A machine that may stop goes on through a run of usual steps exactly when all of them are safe, if
under an invariant a safe step does not stop and keeps it, and any other step stops. -/
theorem Along.goes_on_iff {step : σ → ε → Option σ} {usual safe : σ → ε → Prop}
    (keeps : ∀ state event, Inv state → usual state event → safe state event →
      ∃ next, step state event = some next ∧ Inv next)
    (stops : ∀ state event, Inv state → usual state event → ¬ safe state event →
      step state event = none) {start : σ} {events : List ε}
    (along : Along (fun state event => state.bind (step · event))
      (fun state event => ∀ current ∈ state, usual current event) (some start) events)
    (holds : Inv start) :
    (Along (fun state event => state.bind (step · event))
        (fun state event => ∀ current ∈ state, safe current event) (some start) events ↔
      ∃ last, run (fun state event => state.bind (step · event)) (some start) events =
        some last) ∧
    ∀ last, run (fun state event => state.bind (step · event)) (some start) events = some last →
      Inv last := by
  induction events generalizing start with
  | nil => exact ⟨iff_of_true trivial ⟨start, rfl⟩, fun last ran => Option.some.inj ran ▸ holds⟩
  | cons event events ih =>
    obtain ⟨here, rest⟩ := along
    have usually := here start rfl
    by_cases safely : safe start event
    · obtain ⟨next, stepped, holds'⟩ := keeps start event holds usually safely
      dsimp only at rest
      rw [Option.bind_some, stepped] at rest
      obtain ⟨defined, kept⟩ := ih rest holds'
      rw [run_cons, Option.bind_some, stepped, ← defined]
      refine ⟨⟨fun safe => ?_, fun later => ⟨fun current same => ?_, ?_⟩⟩, kept⟩
      · have later := safe.2
        dsimp only at later
        rwa [Option.bind_some, stepped] at later
      · rw [← Option.mem_some.mp same]
        exact safely
      · dsimp only
        rwa [Option.bind_some, stepped]
    · rw [run_cons, Option.bind_some, stops start event holds usually safely, run_none]
      refine ⟨iff_of_false (fun safe => safely (safe.1 start rfl)) ?_, fun last gone => ?_⟩
      · rintro ⟨last, gone⟩
        cases gone
      · cases gone

/-- A machine that may stop stays good up to the end of a run exactly when every step meets a
condition, if under an invariant no step stops, the condition decides whether the next state is
good, and it keeps the invariant. -/
theorem along_and_iff {step : σ → ε → Option σ} {usual safe : σ → ε → Prop} {Good : σ → Prop}
    (good : ∀ state, Inv state → Good state)
    (steps : ∀ state event, Inv state → usual state event → ∃ next, step state event = some next ∧
      (safe state event → Inv next) ∧ (Good next → safe state event))
    {start : σ} (holds : Inv start) (events : List ε) :
    Along (fun state event => state.bind (step · event))
        (fun state event => ∀ current ∈ state, usual current event ∧ safe current event)
        (some start) events ↔
      Along (fun state event => state.bind (step · event))
          (fun state event => ∀ current ∈ state, usual current event) (some start) events ∧
        ∀ earlier later, events = earlier ++ later → ∃ last,
          run (fun state event => state.bind (step · event)) (some start) earlier = some last ∧
            Good last := by
  induction events generalizing start with
  | nil =>
    refine iff_of_true trivial ⟨trivial, fun earlier later split => ?_⟩
    obtain ⟨rfl, -⟩ := List.append_eq_nil_iff.mp split.symm
    exact ⟨start, rfl, good start holds⟩
  | cons event events ih =>
    constructor
    · rintro ⟨here, rest⟩
      obtain ⟨usually, safely⟩ := here start rfl
      obtain ⟨next, stepped, keeps, -⟩ := steps start event holds usually
      dsimp only at rest
      rw [Option.bind_some, stepped] at rest
      obtain ⟨along, reached⟩ := (ih (keeps safely)).mp rest
      refine ⟨⟨fun current same => ?_, ?_⟩, fun earlier later split => ?_⟩
      · obtain rfl := Option.mem_some.mp same
        exact usually
      · dsimp only
        rw [Option.bind_some, stepped]
        exact along
      · cases earlier with
        | nil => exact ⟨start, rfl, good start holds⟩
        | cons first earlier =>
          obtain ⟨rfl, rfl⟩ := List.cons.inj split
          rw [run_cons, Option.bind_some, stepped]
          exact reached earlier later rfl
    · rintro ⟨⟨here, rest⟩, reached⟩
      have usually := here start rfl
      obtain ⟨next, stepped, keeps, judges⟩ := steps start event holds usually
      dsimp only at rest
      rw [Option.bind_some, stepped] at rest
      obtain ⟨last, ran, fine⟩ := reached [event] events rfl
      rw [run_cons, Option.bind_some, stepped] at ran
      obtain rfl := Option.some.inj ran
      have safely := judges fine
      refine ⟨fun current same => ?_, ?_⟩
      · obtain rfl := Option.mem_some.mp same
        exact ⟨usually, safely⟩
      · dsimp only
        rw [Option.bind_some, stepped]
        refine (ih (keeps safely)).mpr ⟨rest, fun earlier later split => ?_⟩
        have reached' := reached (event :: earlier) later (by rw [split]; rfl)
        rw [run_cons, Option.bind_some, stepped] at reached'
        exact reached'

/-- A measure that falls in no step of a run does not fall in the run. -/
theorem Along.le_run {α : Type*} [Preorder α] {measure : σ → α} {start : σ} {events : List ε}
    (along : Along step (fun state event => measure state ≤ measure (step state event)) start
      events) :
    measure start ≤ measure (run step start events) := by
  induction events generalizing start with
  | nil => exact le_rfl
  | cons event events ih => exact along.1.trans (ih along.2)

/-- A measure falls in no step of a run exactly when it falls between no two of its states. -/
theorem along_le_iff {α : Type*} [Preorder α] (measure : σ → α) (start : σ) (events : List ε) :
    Along step (fun state event => measure state ≤ measure (step state event)) start events ↔
      ∀ earlier later rest, events = earlier ++ later ++ rest →
        measure (run step start earlier) ≤ measure (run step start (earlier ++ later)) := by
  constructor
  · rintro along earlier later rest rfl
    have middle := ((along_append start (earlier ++ later) rest).mp along).1
    have after := ((along_append start earlier later).mp middle).2
    rw [run_append]
    exact after.le_run
  · intro bounded
    refine (along_iff start events).mpr fun earlier event later split => ?_
    have kept := bounded earlier [event] later (by rw [split]; simp)
    rwa [run_concat] at kept

/-! ## Machines that answer -/

variable {α τ : Type*}

/-- What a machine answers to the events of a list. -/
def replies (step : σ → ε → α × σ) : σ → List ε → List α
  | _, [] => []
  | start, event :: events => (step start event).1 :: replies step (step start event).2 events

/-- What a machine that may stop answers to the events of a list, if it does not stop. -/
def answers (step : σ → ε → Option (α × σ)) : σ → List ε → Option (List α)
  | _, [] => some []
  | start, event :: events =>
    (step start event).bind fun next => (answers step next.2 events).map (next.1 :: ·)

/-- A machine answers what another one does when related states have the same answer to the next
event and lead to related states; how they are related may depend on the events to come. -/
theorem answers_eq_replies {step : σ → ε → Option (α × σ)} {model : τ → ε → α × τ}
    (Related : List ε → σ → τ → Prop)
    (follows : ∀ event events state other, Related (event :: events) state other →
      ∃ next, step state event = some ((model other event).1, next) ∧
        Related events next (model other event).2)
    {events : List ε} {start : σ} {other : τ} (related : Related events start other) :
    answers step start events = some (replies model other events) := by
  induction events generalizing start other with
  | nil => rfl
  | cons event events ih =>
    obtain ⟨next, stepped, related'⟩ := follows event events start other related
    rw [answers, stepped, Option.bind_some, ih related']
    rfl

end Runs
