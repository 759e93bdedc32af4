import Mathlib.Data.List.Induction
import Paxosme.Core.Node
import Paxosme.Core.Scheduler
import Paxosme.Lib.Runs

/-!
# Timers

At any time each type of event has at most one timer that is armed: the last event added of that
type, unless the type has been removed or the event returned since. `Sound` says how the heap and
the ids that are noted hold the armed timers among the events that have been replaced. `Dispatch`
returns an armed timer that is due, but looks at the latest event only to see whether any is; what
it leaves behind, and what `NextEventTime` finds, follow from that.
-/

namespace Paxosme

open Heap

/-- A call of a scheduler. -/
inductive SchedulerCall (τ β : Type) where
  | addEvent (callback : β) (when : Int) (eventType : τ)
  | remove (eventType : τ)
  /-- `Dispatch`, when the clock reads so. -/
  | dispatch (now : Int)
  | nextEventTime
  deriving DecidableEq, Repr

/-- A scheduler and what has been done with it. -/
structure Timers (τ β : Type) where
  scheduler : Scheduler τ β := {}
  /-- The last event added of each type, unless it has been removed or returned since. -/
  armed : τ → Option (Event τ β) := fun _ => none
  /-- The events returned so far. -/
  fired : List (Event τ β) := []

variable {τ β : Type} {heap : EventHeap τ β} {first : Event τ β} {rest : List (Event τ β)}

variable (heap) in
/-- `PopOne` takes the first event of the heap. -/
theorem EventQueue.popOne_first {queue : EventQueue τ β} (ordered : IsHeap Event.when queue.events)
    (events : queue.events = first :: rest) :
    ∃ left, queue.popOne heap = some (first, ⟨left⟩) ∧ left.Perm rest ∧
      IsHeap Event.when left := by
  rw [events] at ordered
  obtain ⟨left, popped, perm, ordered'⟩ := heap.popHeap_parts first rest ordered
  refine ⟨left, ?_, perm, ordered'⟩
  rw [popOne, events, if_neg (by simp), popped, List.getLast?_concat, List.dropLast_concat]
  rfl

/-- Two schedulers differ at most in the zeros that are noted. -/
structure Scheduler.SameNotes (before after : Scheduler τ β) : Prop where
  queue : after.eventQueue = before.eventQueue
  eventId : after.eventId = before.eventId
  notes : ∀ eventType eventId, 0 < eventId → (after.eventTypeIdMap eventType = some eventId ↔
    before.eventTypeIdMap eventType = some eventId)

namespace Timers

/-- The heap is one, no two events have one id, and the armed timers are the events whose ids are
noted. -/
structure Sound (timers : Timers τ β) : Prop where
  heap : IsHeap Event.when timers.scheduler.eventQueue.events
  positive : ∀ event ∈ timers.scheduler.eventQueue.events, 0 < event.eventId
  below : ∀ event ∈ timers.fired ++ timers.scheduler.eventQueue.events,
    event.eventId ≤ timers.scheduler.eventId
  distinct : ((timers.fired ++ timers.scheduler.eventQueue.events).map Event.eventId).Nodup
  armed : ∀ eventType event, timers.armed eventType = some event ↔
    event ∈ timers.scheduler.eventQueue.events ∧ event.eventType = eventType ∧
      timers.scheduler.eventTypeIdMap eventType = some event.eventId
  noted : ∀ eventType eventId, timers.scheduler.eventTypeIdMap eventType = some eventId →
    eventId ≤ timers.scheduler.eventId

end Timers

variable {timers : Timers τ β} {scheduler : Scheduler τ β} {event : Event τ β} {now : Int}

namespace Timers.Sound

theorem empty : ({} : Timers τ β).Sound where
  heap := isHeap_nil
  positive := by simp
  below := by simp
  distinct := by simp
  armed := by simp
  noted := by simp

/-- Zeros that are noted make no difference. -/
theorem sameNotes (sound : timers.Sound) (same : timers.scheduler.SameNotes scheduler) :
    ({ timers with scheduler } : Timers τ β).Sound where
  heap := by rw [same.queue]; exact sound.heap
  positive := by rw [same.queue]; exact sound.positive
  below := by rw [same.queue, same.eventId]; exact sound.below
  distinct := by rw [same.queue]; exact sound.distinct
  armed := by
    intro eventType event
    rw [same.queue, sound.armed]
    refine and_congr_right fun member => and_congr_right fun _ => ?_
    exact (same.notes eventType event.eventId (sound.positive event member)).symm
  noted := by
    intro eventType eventId noted
    rcases Nat.eq_zero_or_pos eventId with zero | positive
    · omega
    · rw [same.eventId]
      exact sound.noted eventType eventId ((same.notes eventType eventId positive).mp noted)

/-- What is armed is in the heap and not later than the first event. -/
theorem armed_le_first (sound : timers.Sound)
    (events : timers.scheduler.eventQueue.events = first :: rest) {eventType : τ}
    (armed : timers.armed eventType = some event) : event.when ≤ first.when := by
  have ordered := sound.heap
  have member := ((sound.armed eventType event).mp armed).1
  rw [events] at ordered member
  exact ordered.le_first event member

/-- The first event is armed exactly when its id is noted. -/
theorem armed_first (sound : timers.Sound)
    (events : timers.scheduler.eventQueue.events = first :: rest) :
    timers.armed first.eventType = some first ↔
      timers.scheduler.eventTypeIdMap first.eventType = some first.eventId := by
  rw [sound.armed, events]
  simp

/-- Either the latest event is not due, or all events are. -/
theorem early_or_due (sound : timers.Sound) (now : Int) :
    (∃ first rest, timers.scheduler.eventQueue.events = first :: rest ∧ now < first.when) ∨
      ∀ event ∈ timers.scheduler.eventQueue.events, event.when ≤ now := by
  cases events : timers.scheduler.eventQueue.events with
  | nil => exact Or.inr (by simp)
  | cons first rest =>
    rcases lt_or_ge now first.when with early | due
    · exact Or.inl ⟨first, rest, rfl, early⟩
    · have ordered := sound.heap
      rw [events] at ordered
      exact Or.inr fun event member => (ordered.le_first event member).trans due

/-- An event that is not armed may go. -/
theorem skip (sound : timers.Sound) {left : List (Event τ β)}
    (events : timers.scheduler.eventQueue.events = first :: rest) (perm : left.Perm rest)
    (ordered : IsHeap Event.when left) (stale : timers.armed first.eventType ≠ some first) :
    ({ timers with scheduler := { timers.scheduler with eventQueue := ⟨left⟩ } } :
      Timers τ β).Sound where
  heap := ordered
  positive event member := sound.positive event (by
    rw [events]
    exact List.mem_cons_of_mem _ (perm.subset member))
  below event member := sound.below event (by
    rw [events]
    rcases List.mem_append.mp member with old | new
    · exact List.mem_append_left _ old
    · exact List.mem_append_right _ (List.mem_cons_of_mem _ (perm.subset new)))
  distinct := by
    have distinct := sound.distinct
    rw [events] at distinct
    have fewer : (timers.fired ++ rest).Sublist (timers.fired ++ first :: rest) :=
      (List.sublist_cons_self first rest).append_left timers.fired
    exact (((perm.append_left timers.fired).map _).nodup_iff).mpr
      (distinct.sublist (fewer.map _))
  armed eventType event := by
    rw [sound.armed, events]
    constructor
    · rintro ⟨member, rfl, noted⟩
      rcases List.mem_cons.mp member with rfl | later
      · exact absurd ((sound.armed_first events).mpr noted) stale
      · exact ⟨perm.symm.subset later, rfl, noted⟩
    · rintro ⟨member, rfl, noted⟩
      exact ⟨List.mem_cons_of_mem _ (perm.subset member), rfl, noted⟩
  noted := sound.noted

end Timers.Sound

variable [DecidableEq τ]

namespace Timers

/-- An event is returned. -/
def fire (timers : Timers τ β) (event : Event τ β) (scheduler : Scheduler τ β) : Timers τ β where
  scheduler := scheduler
  armed := Function.update timers.armed event.eventType none
  fired := timers.fired ++ [event]

/-- One call; no result when the front of an empty queue is read. -/
def step (heap : EventHeap τ β) (timers : Timers τ β) :
    SchedulerCall τ β → Option (Timers τ β)
  | .addEvent callback when eventType => some { timers with
      scheduler := timers.scheduler.addEvent heap callback when eventType
      armed := Function.update timers.armed eventType
        (some { callback, when, eventType, eventId := timers.scheduler.eventId + 1 }) }
  | .remove eventType => some { timers with
      scheduler := timers.scheduler.remove eventType
      armed := Function.update timers.armed eventType none }
  | .dispatch now =>
    match timers.scheduler.dispatch heap now with
    | (none, scheduler) => some { timers with scheduler }
    | (some event, scheduler) => some (timers.fire event scheduler)
  | .nextEventTime => (timers.scheduler.nextEventTime heap).map
      fun (_, scheduler) => { timers with scheduler }

/-- A scheduler after some calls. -/
def run (heap : EventHeap τ β) (calls : List (SchedulerCall τ β)) : Option (Timers τ β) :=
  Runs.run (fun state call => state.bind (step heap · call)) (some {}) calls

end Timers

/-- Looking up an id notes at most a zero. -/
theorem Scheduler.idOf_sameNotes (scheduler : Scheduler τ β) (eventType : τ) :
    scheduler.SameNotes (scheduler.idOf eventType).2 := by
  rw [idOf]
  cases noted : scheduler.eventTypeIdMap eventType with
  | some eventId => exact ⟨rfl, rfl, fun _ _ _ => Iff.rfl⟩
  | none =>
    refine ⟨rfl, rfl, fun other eventId positive => ?_⟩
    dsimp only
    by_cases same : other = eventType
    · subst same
      rw [Function.update_self, noted]
      constructor
      · intro zero
        have := Option.some.inj zero
        omega
      · intro absent
        cases absent
    · rw [Function.update_of_ne same]

/-- The id that is looked up is the one that is noted. -/
theorem Scheduler.idOf_iff (scheduler : Scheduler τ β) (eventType : τ) {eventId : Nat}
    (positive : 0 < eventId) : (scheduler.idOf eventType).1 = eventId ↔
      scheduler.eventTypeIdMap eventType = some eventId := by
  rw [idOf]
  cases noted : scheduler.eventTypeIdMap eventType with
  | some found => simp
  | none =>
    constructor
    · intro zero
      have : 0 = eventId := zero
      omega
    · intro absent
      cases absent

namespace Timers.Sound

/-- An event that is armed is returned. -/
theorem fire (sound : timers.Sound) {left : List (Event τ β)}
    (events : timers.scheduler.eventQueue.events = first :: rest) (perm : left.Perm rest)
    (ordered : IsHeap Event.when left) (live : timers.armed first.eventType = some first) :
    (timers.fire first { timers.scheduler with eventQueue := ⟨left⟩ }).Sound := by
  have shift : (timers.fired ++ [first] ++ left).Perm
      (timers.fired ++ timers.scheduler.eventQueue.events) := by
    rw [events, List.append_assoc]
    exact ((perm.cons first)).append_left timers.fired
  have noted := (sound.armed_first events).mp live
  have alone : ∀ other ∈ left, other.eventId ≠ first.eventId := by
    have whole := (shift.map Event.eventId).nodup_iff.mpr sound.distinct
    rw [List.map_append] at whole
    have distinct := (List.nodup_append.mp whole).2.2
    intro other member same
    exact distinct first.eventId (by simp) other.eventId (List.mem_map_of_mem member) same.symm
  constructor
  · exact ordered
  · intro other member
    refine sound.positive other ?_
    rw [events]
    exact List.mem_cons_of_mem _ (perm.subset member)
  · exact fun other member => sound.below other (shift.subset member)
  · exact (shift.map _).nodup_iff.mpr sound.distinct
  · intro eventType other
    by_cases same : eventType = first.eventType
    · subst same
      constructor
      · intro armed
        have gone : Function.update timers.armed first.eventType none first.eventType =
            some other := armed
        rw [Function.update_self] at gone
        cases gone
      · rintro ⟨member, -, noted'⟩
        have equal : some first.eventId = some other.eventId := noted.symm.trans noted'
        exact absurd (Option.some.inj equal).symm (alone other member)
    · have kept : (timers.fire first { timers.scheduler with eventQueue := ⟨left⟩ }).armed
          eventType = timers.armed eventType := Function.update_of_ne same ..
      rw [kept, sound.armed, events]
      constructor
      · rintro ⟨member, rfl, noted'⟩
        rcases List.mem_cons.mp member with rfl | later
        · exact absurd rfl same
        · exact ⟨perm.symm.subset later, rfl, noted'⟩
      · rintro ⟨member, rfl, noted'⟩
        exact ⟨List.mem_cons_of_mem _ (perm.subset member), rfl, noted'⟩
  · exact sound.noted

/-- `AddEvent` arms its event. -/
theorem addEvent (sound : timers.Sound) {callback : β} {when : Int} {eventType : τ}
    {after : Timers τ β} (stepped : timers.step heap (.addEvent callback when eventType) =
      some after) : after.Sound := by
  obtain rfl := Option.some.inj stepped
  let added : Event τ β := ⟨callback, when, eventType, timers.scheduler.eventId + 1⟩
  have perm : (heap.pushHeap (timers.scheduler.eventQueue.events ++ [added])).Perm
      (added :: timers.scheduler.eventQueue.events) :=
    (heap.pushHeap_perm _).trans (List.perm_append_singleton _ _)
  have shift : (timers.fired ++
      heap.pushHeap (timers.scheduler.eventQueue.events ++ [added])).Perm
        (added :: (timers.fired ++ timers.scheduler.eventQueue.events)) :=
    (perm.append_left timers.fired).trans List.perm_middle
  constructor
  · exact heap.pushHeap_isHeap _ _ sound.heap
  · intro event member
    rcases List.mem_cons.mp (perm.subset member) with rfl | old
    · exact Nat.succ_pos _
    · exact sound.positive event old
  · intro event member
    rcases List.mem_cons.mp (shift.subset member) with rfl | old
    · exact le_rfl
    · exact Nat.le_succ_of_le (sound.below event old)
  · refine (shift.map Event.eventId).nodup_iff.mpr ?_
    rw [List.map_cons, List.nodup_cons]
    refine ⟨fun member => ?_, sound.distinct⟩
    obtain ⟨event, old, same⟩ := List.mem_map.mp member
    have below := sound.below event old
    rw [same] at below
    exact Nat.not_succ_le_self _ below
  · intro other event
    show Function.update timers.armed eventType (some added) other = some event ↔
      event ∈ heap.pushHeap (timers.scheduler.eventQueue.events ++ [added]) ∧
        event.eventType = other ∧ Function.update timers.scheduler.eventTypeIdMap eventType
          (some (timers.scheduler.eventId + 1)) other = some event.eventId
    by_cases same : other = eventType
    · subst same
      rw [Function.update_self, Function.update_self]
      constructor
      · intro armed
        rw [← Option.some.inj armed]
        exact ⟨perm.symm.subset List.mem_cons_self, rfl, rfl⟩
      · rintro ⟨member, -, noted⟩
        rcases List.mem_cons.mp (perm.subset member) with rfl | old
        · rfl
        · have below := sound.below event (List.mem_append_right _ old)
          have fresh := Option.some.inj noted
          omega
    · rw [Function.update_of_ne same, Function.update_of_ne same, sound.armed]
      constructor
      · rintro ⟨member, kind, noted⟩
        exact ⟨perm.symm.subset (List.mem_cons_of_mem _ member), kind, noted⟩
      · rintro ⟨member, kind, noted⟩
        rcases List.mem_cons.mp (perm.subset member) with rfl | old
        · exact absurd kind.symm same
        · exact ⟨old, kind, noted⟩
  · intro other eventId noted
    have noted' : Function.update timers.scheduler.eventTypeIdMap eventType
        (some (timers.scheduler.eventId + 1)) other = some eventId := noted
    by_cases same : other = eventType
    · rw [same, Function.update_self] at noted'
      exact le_of_eq (Option.some.inj noted').symm
    · rw [Function.update_of_ne same] at noted'
      exact Nat.le_succ_of_le (sound.noted other eventId noted')

/-- `Remove` disarms a type. -/
theorem remove (sound : timers.Sound) {eventType : τ} {after : Timers τ β}
    (stepped : timers.step heap (.remove eventType) = some after) : after.Sound := by
  obtain rfl := Option.some.inj stepped
  refine ⟨sound.heap, sound.positive, sound.below, sound.distinct, ?_, ?_⟩
  · intro other event
    show Function.update timers.armed eventType none other = some event ↔
      event ∈ timers.scheduler.eventQueue.events ∧ event.eventType = other ∧
        Function.update timers.scheduler.eventTypeIdMap eventType none other = some event.eventId
    by_cases same : other = eventType
    · simp [same]
    · rw [Function.update_of_ne same, Function.update_of_ne same, sound.armed]
  · intro other eventId noted
    have noted' : Function.update timers.scheduler.eventTypeIdMap eventType none other =
        some eventId := noted
    by_cases same : other = eventType
    · rw [same, Function.update_self] at noted'
      cases noted'
    · rw [Function.update_of_ne same] at noted'
      exact sound.noted other eventId noted'

end Timers.Sound

/-! ## `Dispatch` -/

/-- What comes of looking for an armed timer in the heap. -/
structure Timers.Finds (timers : Timers τ β) (event : Event τ β) (scheduler : Scheduler τ β) :
    Prop where
  armed : timers.armed event.eventType = some event
  latest : ∀ eventType other, timers.armed eventType = some other → other.when ≤ event.when
  sound : (timers.fire event scheduler).Sound
  fewer : scheduler.eventQueue.events.length < timers.scheduler.eventQueue.events.length
  kept : ∀ other ∈ scheduler.eventQueue.events, other ∈ timers.scheduler.eventQueue.events

variable (heap) in
/-- The loop of `Dispatch` returns the latest armed timer, and empties the heap when there is
none. -/
theorem Timers.Sound.dispatchLoop (sound : timers.Sound) {count : Nat}
    (enough : timers.scheduler.eventQueue.events.length ≤ count) :
    (∃ after, timers.scheduler.dispatchLoop heap count = (none, after) ∧
      after.eventQueue.events = [] ∧ ({ timers with scheduler := after } : Timers τ β).Sound) ∨
    (∃ event after, timers.scheduler.dispatchLoop heap count = (some event, after) ∧
      timers.Finds event after) := by
  induction count generalizing timers with
  | zero =>
    have nothing := List.length_eq_zero_iff.mp (Nat.le_zero.mp enough)
    exact Or.inl ⟨timers.scheduler, rfl, nothing, sound⟩
  | succ count ih =>
    cases events : timers.scheduler.eventQueue.events with
    | nil =>
      have none : timers.scheduler.eventQueue.popOne heap = Option.none := by
        rw [EventQueue.popOne, if_pos events]
      refine Or.inl ⟨timers.scheduler, ?_, events, sound⟩
      rw [Scheduler.dispatchLoop, none]
    | cons first rest =>
      obtain ⟨left, popped, perm, ordered⟩ :=
        EventQueue.popOne_first heap sound.heap events
      have length := perm.length_eq
      have positive : 0 < first.eventId := sound.positive first (by rw [events]; simp)
      have within : ∀ other ∈ left, other ∈ timers.scheduler.eventQueue.events := by
        intro other member
        rw [events]
        exact List.mem_cons_of_mem _ (perm.subset member)
      generalize rested : { timers.scheduler with eventQueue := ⟨left⟩ } = bare
      have notes := bare.idOf_sameNotes first.eventType
      have looked := bare.idOf_iff first.eventType positive
      have map : bare.eventTypeIdMap = timers.scheduler.eventTypeIdMap := by rw [← rested]
      have queue : (bare.idOf first.eventType).2.eventQueue.events = left := by
        rw [notes.queue, ← rested]
      rw [Scheduler.dispatchLoop, popped]
      dsimp only
      rw [rested]
      rw [map] at looked
      rw [events, List.length_cons] at enough
      by_cases live : timers.armed first.eventType = some first
      · have sound' := sound.fire events perm ordered live
        rw [rested] at sound'
        rw [if_neg (not_not_intro (looked.mpr ((sound.armed_first events).mp live)))]
        refine Or.inr ⟨first, _, rfl, live, ?_, sound'.sameNotes notes, ?_, ?_⟩
        · exact fun eventType other armed => sound.armed_le_first events armed
        · rw [queue, events, List.length_cons]
          omega
        · rw [queue]
          exact within
      · have sound' := sound.skip events perm ordered live
        rw [rested] at sound'
        have stale := fun same => live ((sound.armed_first events).mpr (looked.mp same))
        rw [if_pos stale]
        have few : (bare.idOf first.eventType).2.eventQueue.events.length ≤ count := by
          rw [queue]
          omega
        rcases ih (sound'.sameNotes notes) few with found | ⟨event, after, returned, finds⟩
        · exact Or.inl found
        · have fewer : after.eventQueue.events.length < left.length := by
            rw [← queue]
            exact finds.fewer
          refine Or.inr ⟨event, after, returned, finds.armed, finds.latest, finds.sound, ?_, ?_⟩
          · rw [events, List.length_cons]
            omega
          · intro other member
            have member' := finds.kept other member
            dsimp only at member'
            rw [queue] at member'
            exact within other member'

/-- `Dispatch` does nothing when the latest event is not due. -/
theorem Timers.dispatch_early (events : timers.scheduler.eventQueue.events = first :: rest)
    (early : now < first.when) :
    timers.scheduler.dispatch heap now = (none, timers.scheduler) := by
  rw [Scheduler.dispatch, EventQueue.hasTimeout, events]
  simp [early]

variable (heap) in
/-- `Dispatch` returns the latest armed timer when all events are due, and empties the heap when
no timer is armed. -/
theorem Timers.Sound.dispatch_due (sound : timers.Sound)
    (due : ∀ event ∈ timers.scheduler.eventQueue.events, event.when ≤ now) :
    (∃ after, timers.scheduler.dispatch heap now = (none, after) ∧
      after.eventQueue.events = [] ∧ ({ timers with scheduler := after } : Timers τ β).Sound) ∨
    (∃ event after, timers.scheduler.dispatch heap now = (some event, after) ∧
      timers.Finds event after) := by
  rw [Scheduler.dispatch]
  cases events : timers.scheduler.eventQueue.events with
  | nil =>
    have idle : timers.scheduler.eventQueue.hasTimeout now = false := by
      rw [EventQueue.hasTimeout, events]
    rw [idle]
    exact Or.inl ⟨timers.scheduler, rfl, events, sound⟩
  | cons first rest =>
    have late : ¬ now < first.when := by
      have := due first (by rw [events]; simp)
      omega
    have ready : timers.scheduler.eventQueue.hasTimeout now = true := by
      rw [EventQueue.hasTimeout, events]
      exact if_neg late
    rw [ready, ← events]
    exact sound.dispatchLoop heap le_rfl

/-- What `Dispatch` returns is armed and due, and no armed timer is later. -/
theorem Timers.Sound.dispatch_finds (sound : timers.Sound) {after : Scheduler τ β}
    (returned : timers.scheduler.dispatch heap now = (some event, after)) :
    timers.Finds event after ∧ event.when ≤ now := by
  rcases sound.early_or_due now with ⟨first, rest, events, early⟩ | due
  · rw [dispatch_early events early] at returned
    cases returned
  · rcases sound.dispatch_due heap due with ⟨_, nothing, -⟩ | ⟨_, _, found, finds⟩
    · rw [nothing] at returned
      cases returned
    · rw [found] at returned
      obtain ⟨same, rfl⟩ := Prod.mk.inj returned
      obtain rfl := Option.some.inj same
      exact ⟨finds, due _ ((sound.armed _ _).mp finds.armed).1⟩

/-- A `Dispatch` that returns nothing keeps the armed timers. -/
theorem Timers.Sound.dispatch_nothing (sound : timers.Sound) {after : Scheduler τ β}
    (returned : timers.scheduler.dispatch heap now = (none, after)) :
    ({ timers with scheduler := after } : Timers τ β).Sound := by
  rcases sound.early_or_due now with ⟨first, rest, events, early⟩ | due
  · rw [dispatch_early events early] at returned
    obtain ⟨-, rfl⟩ := Prod.mk.inj returned
    exact sound
  · rcases sound.dispatch_due heap due with ⟨_, nothing, -, sound'⟩ | ⟨_, _, found, -⟩
    · rw [nothing] at returned
      obtain ⟨-, rfl⟩ := Prod.mk.inj returned
      exact sound'
    · rw [found] at returned
      cases returned

/-! ## `NextEventTime` -/

variable (heap) in
/-- The loop of `NextEventTime` finds the latest armed timer, and reads the front of an empty
queue when there is none. -/
theorem Timers.Sound.nextLoop (sound : timers.Sound) {count : Nat}
    (exact_ : timers.scheduler.eventQueue.events.length = count) :
    (timers.scheduler.nextLoop heap count = none ∧
      ∀ eventType, timers.armed eventType = none) ∨
    (∃ event after, timers.scheduler.nextLoop heap count = some (event.when, after) ∧
      timers.armed event.eventType = some event ∧
      (∀ eventType other, timers.armed eventType = some other → other.when ≤ event.when) ∧
      after.eventId = timers.scheduler.eventId ∧
      ({ timers with scheduler := after } : Timers τ β).Sound) := by
  induction count generalizing timers with
  | zero =>
    have nothing := List.length_eq_zero_iff.mp exact_
    refine Or.inl ⟨rfl, fun eventType => ?_⟩
    cases armed : timers.armed eventType with
    | none => rfl
    | some event =>
      have member := ((sound.armed eventType event).mp armed).1
      rw [nothing] at member
      cases member
  | succ count ih =>
    obtain ⟨first, rest, events⟩ := List.exists_cons_of_length_eq_add_one exact_
    have positive : 0 < first.eventId := sound.positive first (by rw [events]; simp)
    have notes := timers.scheduler.idOf_sameNotes first.eventType
    have looked := timers.scheduler.idOf_iff first.eventType positive
    have front : timers.scheduler.eventQueue.next = some first := by
      rw [EventQueue.next, events]
      rfl
    have sound' := sound.sameNotes notes
    rw [Scheduler.nextLoop, front, Option.bind_eq_bind, Option.bind_some]
    by_cases live : timers.armed first.eventType = some first
    · refine Or.inr ⟨first, (timers.scheduler.idOf first.eventType).2, ?_, live,
        fun eventType other armed => sound.armed_le_first events armed, notes.eventId, sound'⟩
      exact if_neg (not_not_intro (looked.mpr ((sound.armed_first events).mp live)))
    · have stale := fun same => live ((sound.armed_first events).mpr (looked.mp same))
      have events' : (timers.scheduler.idOf first.eventType).2.eventQueue.events =
          first :: rest := by
        rw [notes.queue, events]
      obtain ⟨left, popped, perm, ordered⟩ :=
        EventQueue.popOne_first heap sound'.heap events'
      have length : left.length = count := by
        rw [events, List.length_cons] at exact_
        rw [perm.length_eq]
        omega
      dsimp only at popped
      dsimp only
      rw [if_pos stale, popped, Option.bind_eq_bind, Option.bind_some]
      rcases ih (sound'.skip events' perm ordered live) length with nothing | found
      · exact Or.inl nothing
      · obtain ⟨event, after, found, armed, latest, same, sound''⟩ := found
        exact Or.inr ⟨event, after, found, armed, latest, same.trans notes.eventId, sound''⟩

variable (heap) in
/-- `NextEventTime`. -/
theorem Timers.Sound.nextEventTime (sound : timers.Sound) :
    (timers.scheduler.eventQueue.events = [] ∧
      timers.scheduler.nextEventTime heap = some (none, timers.scheduler)) ∨
    (timers.scheduler.eventQueue.events ≠ [] ∧
      ((timers.scheduler.nextEventTime heap = none ∧
        ∀ eventType, timers.armed eventType = none) ∨
      ∃ event after, timers.scheduler.nextEventTime heap = some (some event.when, after) ∧
        timers.armed event.eventType = some event ∧
        (∀ eventType other, timers.armed eventType = some other → other.when ≤ event.when) ∧
        after.eventId = timers.scheduler.eventId ∧
        ({ timers with scheduler := after } : Timers τ β).Sound)) := by
  rw [Scheduler.nextEventTime, EventQueue.empty]
  by_cases events : timers.scheduler.eventQueue.events = []
  · refine Or.inl ⟨events, ?_⟩
    rw [if_pos (by rw [events]; rfl)]
  · rw [if_neg (by rw [List.isEmpty_iff]; exact events)]
    refine Or.inr ⟨events, ?_⟩
    rcases sound.nextLoop heap rfl with ⟨nothing, none⟩ | ⟨event, after, found, rest⟩
    · exact Or.inl ⟨by rw [nothing]; rfl, none⟩
    · exact Or.inr ⟨event, after, by rw [found]; rfl, rest⟩

/-! ## Runs -/

/-- A call adds an event. -/
def SchedulerCall.adds : SchedulerCall τ β → Bool
  | .addEvent .. => true
  | _ => false

/-- The type of which a call adds an event or that it removes. -/
def SchedulerCall.sets : SchedulerCall τ β → Option τ
  | .addEvent _ _ eventType => some eventType
  | .remove eventType => some eventType
  | _ => none

/-- An event has been added, and since then no other of its type, nor has the type been removed. -/
def LastAdded (calls : List (SchedulerCall τ β)) (event : Event τ β) : Prop :=
  ∃ before after, calls = before ++
      .addEvent event.callback event.when event.eventType :: after ∧
    event.eventId = before.countP SchedulerCall.adds + 1 ∧
    ∀ call ∈ after, call.sets ≠ some event.eventType

variable (heap) in
theorem Scheduler.dispatchLoop_eventId (scheduler : Scheduler τ β) (count : Nat) :
    (scheduler.dispatchLoop heap count).2.eventId = scheduler.eventId := by
  induction count generalizing scheduler with
  | zero => rfl
  | succ count ih =>
    rw [Scheduler.dispatchLoop]
    split
    · rfl
    · rename_i event eventQueue popped
      have same := ({ scheduler with eventQueue }).idOf_sameNotes event.eventType
      dsimp only
      split
      · rw [ih, same.eventId]
      · exact same.eventId

variable (heap) in
theorem Scheduler.dispatch_eventId (scheduler : Scheduler τ β) (now : Int) :
    (scheduler.dispatch heap now).2.eventId = scheduler.eventId := by
  rw [Scheduler.dispatch]
  split
  · rfl
  · exact dispatchLoop_eventId ..

/-- One call keeps what is known of the armed timers. -/
theorem Timers.Sound.step (sound : timers.Sound) {calls : List (SchedulerCall τ β)}
    (counted : timers.scheduler.eventId = calls.countP SchedulerCall.adds)
    (added : ∀ eventType event, timers.armed eventType = some event → LastAdded calls event)
    {call : SchedulerCall τ β} {after : Timers τ β} (stepped : timers.step heap call = some after) :
    after.Sound ∧ after.scheduler.eventId = (calls ++ [call]).countP SchedulerCall.adds ∧
      ∀ eventType event, after.armed eventType = some event →
        LastAdded (calls ++ [call]) event := by
  -- a call that does not set the type of an event leaves it the last one added
  have later : ∀ event : Event τ β, LastAdded calls event → call.sets ≠ some event.eventType →
      LastAdded (calls ++ [call]) event := by
    rintro event ⟨early, late, rfl, number, unset⟩ other
    refine ⟨early, late ++ [call], by simp, number, fun next member => ?_⟩
    rcases List.mem_append.mp member with old | new
    · exact unset next old
    · rw [List.mem_singleton.mp new]
      exact other
  rw [List.countP_append, ← counted]
  cases call with
  | addEvent callback when eventType =>
    have sound' := sound.addEvent stepped
    obtain rfl := Option.some.inj stepped
    refine ⟨sound', rfl, fun other event armed => ?_⟩
    have armed' : Function.update timers.armed eventType (some ⟨callback, when, eventType,
        timers.scheduler.eventId + 1⟩) other = some event := armed
    by_cases same : other = eventType
    · rw [same, Function.update_self] at armed'
      rw [← Option.some.inj armed']
      exact ⟨calls, [], rfl, by rw [counted], by simp⟩
    · rw [Function.update_of_ne same] at armed'
      have kind := ((sound.armed other event).mp armed').2.1
      refine later event (added other event armed') fun sets => ?_
      exact same (kind.symm.trans (Option.some.inj sets).symm)
  | remove eventType =>
    have sound' := sound.remove stepped
    obtain rfl := Option.some.inj stepped
    refine ⟨sound', rfl, fun other event armed => ?_⟩
    have armed' : Function.update timers.armed eventType none other = some event := armed
    by_cases same : other = eventType
    · rw [same, Function.update_self] at armed'
      cases armed'
    · rw [Function.update_of_ne same] at armed'
      have kind := ((sound.armed other event).mp armed').2.1
      refine later event (added other event armed') fun sets => ?_
      exact same (kind.symm.trans (Option.some.inj sets).symm)
  | dispatch now =>
    have number := Scheduler.dispatch_eventId heap timers.scheduler now
    rw [Timers.step] at stepped
    cases returned : timers.scheduler.dispatch heap now with
    | mk found scheduler =>
      rw [returned] at number stepped
      cases found with
      | none =>
        obtain rfl := Option.some.inj stepped
        refine ⟨sound.dispatch_nothing returned, number, fun other event armed => ?_⟩
        exact later event (added other event armed) (by simp [SchedulerCall.sets])
      | some first =>
        obtain rfl := Option.some.inj stepped
        refine ⟨(sound.dispatch_finds returned).1.sound, number, fun other event armed => ?_⟩
        have armed' : Function.update timers.armed first.eventType none other = some event := armed
        by_cases same : other = first.eventType
        · rw [same, Function.update_self] at armed'
          cases armed'
        · rw [Function.update_of_ne same] at armed'
          exact later event (added other event armed') (by simp [SchedulerCall.sets])
  | nextEventTime =>
    rw [Timers.step] at stepped
    have unset : ∀ other event, timers.armed other = some event →
        LastAdded (calls ++ [.nextEventTime]) event := fun other event armed =>
      later event (added other event armed) (by simp [SchedulerCall.sets])
    rcases sound.nextEventTime heap with ⟨-, idle⟩ | ⟨-, ⟨broken, -⟩ | found⟩
    · rw [idle] at stepped
      obtain rfl := Option.some.inj stepped
      exact ⟨sound, rfl, unset⟩
    · rw [broken] at stepped
      cases stepped
    · obtain ⟨event, scheduler, found, -, -, number, sound'⟩ := found
      rw [found] at stepped
      obtain rfl := Option.some.inj stepped
      exact ⟨sound', number, unset⟩

/-- The armed timers of a run are the last events added. -/
theorem Timers.run_sound {calls : List (SchedulerCall τ β)} (ran : run heap calls = some timers) :
    timers.Sound ∧ timers.scheduler.eventId = calls.countP SchedulerCall.adds ∧
      ∀ eventType event, timers.armed eventType = some event → LastAdded calls event := by
  induction calls using List.reverseRecOn generalizing timers with
  | nil =>
    obtain rfl := Option.some.inj ran
    exact ⟨Sound.empty, rfl, by simp⟩
  | append_singleton calls call ih =>
    rw [run, Runs.run_concat] at ran
    obtain ⟨middle, ran', stepped⟩ := Option.bind_eq_some_iff.mp ran
    obtain ⟨sound, counted, added⟩ := ih ran'
    exact sound.step counted added stepped

/-- What `Dispatch` returns is the last event added of its type, which has not been removed since,
is due, and has not been returned before. -/
theorem dispatch_returns_last_added {calls : List (SchedulerCall τ β)}
    {after : Scheduler τ β} (ran : Timers.run heap calls = some timers)
    (returned : timers.scheduler.dispatch heap now = (some event, after)) :
    LastAdded calls event ∧ event.when ≤ now ∧
      ∀ earlier ∈ timers.fired, earlier.eventId ≠ event.eventId := by
  obtain ⟨sound, -, added⟩ := Timers.run_sound ran
  obtain ⟨finds, due⟩ := sound.dispatch_finds returned
  refine ⟨added _ _ finds.armed, due, fun earlier member same => ?_⟩
  have waiting := ((sound.armed _ _).mp finds.armed).1
  have distinct := sound.distinct
  rw [List.map_append] at distinct
  exact (List.nodup_append.mp distinct).2.2 earlier.eventId (List.mem_map_of_mem member)
    event.eventId (List.mem_map_of_mem waiting) same

/-- Events without callbacks, in descending order of their times. -/
def sortedEvents : EventHeap EventType Unit := descending Event.when

/-- A timer is replaced by an earlier one, which is returned. -/
theorem dispatch_returns_last_added_replaced : ∃ timers event after,
    Timers.run sortedEvents [.addEvent () 9 .proposeTimeout, .addEvent () 5 .proposeTimeout] =
      some timers ∧
    timers.scheduler.dispatch sortedEvents 10 = (some event, after) ∧
    LastAdded [.addEvent () 9 .proposeTimeout, .addEvent () 5 .proposeTimeout] event ∧
      event.when ≤ 10 ∧ ∀ earlier ∈ timers.fired, earlier.eventId ≠ event.eventId :=
  ⟨_, _, _, rfl, rfl, dispatch_returns_last_added rfl rfl⟩

/-! ## What is left behind -/

variable (heap) in
/-- When all events are due, `Dispatch` returns the armed timers, the latest first. -/
theorem Timers.Sound.dispatchAll_due (sound : timers.Sound) {count : Nat}
    (due : ∀ event ∈ timers.scheduler.eventQueue.events, event.when ≤ now)
    (enough : timers.scheduler.eventQueue.events.length ≤ count) :
    (∀ eventType event, timers.armed eventType = some event ↔ event.eventType = eventType ∧
      event ∈ (timers.scheduler.dispatchAll heap now count).1) ∧
    (timers.scheduler.dispatchAll heap now count).1.Pairwise fun first second =>
      second.when ≤ first.when := by
  induction count generalizing timers with
  | zero =>
    have nothing := List.length_eq_zero_iff.mp (Nat.le_zero.mp enough)
    refine ⟨fun eventType event => ?_, List.Pairwise.nil⟩
    rw [sound.armed, nothing]
    simp [Scheduler.dispatchAll]
  | succ count ih =>
    rw [Scheduler.dispatchAll]
    rcases sound.dispatch_due heap due with ⟨after, none, events, sound'⟩ | found
    · rw [none]
      refine ⟨fun eventType event => ?_, List.Pairwise.nil⟩
      have armed := sound'.armed eventType event
      rw [events] at armed
      rw [armed]
      simp
    · obtain ⟨first, after, found, finds⟩ := found
      rw [found]
      have fewer := finds.fewer
      have rest := ih finds.sound (fun event member => due event (finds.kept event member))
        (by dsimp only [Timers.fire]; omega)
      obtain ⟨armed, ordered⟩ := rest
      constructor
      · intro eventType event
        have armed' : Function.update timers.armed first.eventType none eventType = some event ↔ _ :=
          armed eventType event
        by_cases same : eventType = first.eventType
        · subst same
          rw [Function.update_self] at armed'
          rw [finds.armed]
          constructor
          · intro is
            obtain rfl := Option.some.inj is
            exact ⟨rfl, List.mem_cons_self⟩
          · rintro ⟨kind, member⟩
            rcases List.mem_cons.mp member with rfl | later
            · rfl
            · cases armed'.mpr ⟨kind, later⟩
        · rw [Function.update_of_ne same] at armed'
          rw [armed', List.mem_cons]
          constructor
          · rintro ⟨kind, later⟩
            exact ⟨kind, Or.inr later⟩
          · rintro ⟨kind, rfl | later⟩
            · exact absurd kind.symm same
            · exact ⟨kind, later⟩
      · refine List.pairwise_cons.mpr ⟨fun event member => ?_, ordered⟩
        have live : Function.update timers.armed first.eventType none event.eventType =
          some event := (armed event.eventType event).mpr ⟨rfl, member⟩
        by_cases same : event.eventType = first.eventType
        · rw [same, Function.update_self] at live
          cases live
        · rw [Function.update_of_ne same] at live
          exact finds.latest _ event live

variable (heap) in
/-- The last of the calls that `dispatchAll` makes returns false. -/
theorem Timers.Sound.dispatchAll_ends (sound : timers.Sound) {count : Nat}
    (enough : timers.scheduler.eventQueue.events.length ≤ count) :
    ((timers.scheduler.dispatchAll heap now count).2.dispatch heap now).1 = none := by
  induction count generalizing timers with
  | zero =>
    have nothing := List.length_eq_zero_iff.mp (Nat.le_zero.mp enough)
    rw [Scheduler.dispatchAll, Scheduler.dispatch, EventQueue.hasTimeout, nothing]
    rfl
  | succ count ih =>
    rw [Scheduler.dispatchAll]
    rcases sound.early_or_due now with ⟨first, rest, events, early⟩ | due
    · rw [dispatch_early events early]
      dsimp only
      rw [dispatch_early events early]
    · rcases sound.dispatch_due heap due with ⟨after, none, events, -⟩ | ⟨first, after, found, finds⟩
      · rw [none]
        dsimp only
        rw [Scheduler.dispatch, EventQueue.hasTimeout, events]
        rfl
      · rw [found]
        have fewer := finds.fewer
        exact ih finds.sound (by dsimp only [Timers.fire]; omega)

/-- What calling `Dispatch` until it returns false is to do: every armed timer that is due is
returned, and none after a later one. -/
structure Timers.Prompt (heap : EventHeap τ β) (timers : Timers τ β) (now : Int) : Prop where
  complete : ∀ eventType event, timers.armed eventType = some event → event.when ≤ now →
    event ∈ (timers.scheduler.dispatchAll heap now
      timers.scheduler.eventQueue.events.length).1
  inOrder : (timers.scheduler.dispatchAll heap now
    timers.scheduler.eventQueue.events.length).1.Pairwise fun first second =>
      first.when ≤ second.when

/-- No two armed timers have different times. -/
def Timers.Alike (timers : Timers τ β) : Prop :=
  ∀ eventType event other kind, timers.armed eventType = some event →
    timers.armed kind = some other → event.when = other.when

/-- No armed timer is due, or all events are, the replaced ones too, and the armed ones at one
time. -/
def Timers.NoneOrAllDue (timers : Timers τ β) (now : Int) : Prop :=
  (∀ eventType event, timers.armed eventType = some event → now < event.when) ∨
    ((∀ event ∈ timers.scheduler.eventQueue.events, event.when ≤ now) ∧ timers.Alike)

/-- Any two of some events are at one time when each is at the time of those behind it. -/
theorem when_eq_of_level {events : List (Event τ β)}
    (level : events.Pairwise fun first second => first.when = second.when) {first second : Event τ β}
    (member : first ∈ events) (member' : second ∈ events) : first.when = second.when := by
  have symm : Std.Symm fun first second : Event τ β => first.when = second.when :=
    ⟨fun _ _ same => same.symm⟩
  by_cases same : first = second
  · rw [same]
  · exact level.forall member member' same

/-- The due timers are returned in their order exactly when none is due or all events are, the
armed ones at one time. -/
theorem due_timers_returned_iff {calls : List (SchedulerCall τ β)}
    (ran : Timers.run heap calls = some timers) (now : Int) :
    ((timers.scheduler.dispatchAll heap now
        timers.scheduler.eventQueue.events.length).2.dispatch heap now).1 = none ∧
      (timers.Prompt heap now ↔ timers.NoneOrAllDue now) := by
  have sound := (Timers.run_sound ran).1
  refine ⟨sound.dispatchAll_ends heap le_rfl, ?_⟩
  rcases sound.early_or_due now with ⟨first, rest, events, early⟩ | due
  · have nothing : (timers.scheduler.dispatchAll heap now
        timers.scheduler.eventQueue.events.length).1 = [] := by
      rw [events, List.length_cons, Scheduler.dispatchAll, Timers.dispatch_early events early]
    constructor
    · intro prompt
      refine Or.inl fun eventType event armed => ?_
      by_contra late
      have returned := prompt.complete eventType event armed (not_lt.mp late)
      rw [nothing] at returned
      cases returned
    · rintro (waiting | ⟨due, -⟩)
      · constructor
        · intro eventType event armed reached
          have := waiting eventType event armed
          omega
        · rw [nothing]
          exact List.Pairwise.nil
      · have := due first (by rw [events]; simp)
        omega
  · obtain ⟨armed, descending⟩ := sound.dispatchAll_due heap due le_rfl
    have complete : ∀ eventType event, timers.armed eventType = some event → event.when ≤ now →
        event ∈ (timers.scheduler.dispatchAll heap now
          timers.scheduler.eventQueue.events.length).1 :=
      fun eventType event live _ => ((armed eventType event).mp live).2
    constructor
    · intro prompt
      refine Or.inr ⟨due, fun eventType event other kind live live' => ?_⟩
      have level := (List.Pairwise.and prompt.inOrder descending).imp fun both =>
        le_antisymm both.1 both.2
      exact when_eq_of_level level ((armed eventType event).mp live).2
        ((armed kind other).mp live').2
    · intro condition
      have alike : timers.Alike := by
        rcases condition with waiting | ⟨-, alike⟩
        · intro eventType event _ _ live _
          have member := ((sound.armed eventType event).mp live).1
          have := waiting eventType event live
          have := due event member
          omega
        · exact alike
      refine ⟨complete, descending.imp_of_mem fun {first second} member member' _ => ?_⟩
      have live := (armed first.eventType first).mpr ⟨rfl, member⟩
      have live' := (armed second.eventType second).mpr ⟨rfl, member'⟩
      exact le_of_eq (alike _ _ _ _ live live')

/-- Two types are armed for one time, one of them for the second time. -/
def rearmed : List (SchedulerCall EventType Unit) :=
  [.addEvent () 5 .proposeTimeout, .addEvent () 9 .acceptTimeout, .addEvent () 9 .proposeTimeout]

/-- All timers that are armed then are for that time. -/
theorem rearmed_when {timers : Timers EventType Unit} {eventType : EventType}
    {event : Event EventType Unit} (ran : Timers.run sortedEvents rearmed = some timers)
    (armed : timers.armed eventType = some event) : event.when = 9 := by
  obtain rfl : _ = timers := Option.some.inj ran
  cases eventType with
  | proposeTimeout | acceptTimeout => rw [← Option.some.inj armed]
  | newValueTimeout | shallILearn => cases armed

theorem rearmed_alike : ∃ timers, Timers.run sortedEvents rearmed = some timers ∧
    (∀ event ∈ timers.scheduler.eventQueue.events, event.when ≤ 10) ∧ timers.Alike ∧
    ∃ eventType event, timers.armed eventType = some event := by
  have ran : Timers.run sortedEvents rearmed = some _ := rfl
  refine ⟨_, ran, by decide, fun eventType event other kind live live' => ?_, .acceptTimeout, _, rfl⟩
  rw [rearmed_when ran live, rearmed_when ran live']

/-- Both are returned when they are due, and what has been replaced is not. -/
theorem due_timers_returned_once : ∃ timers,
    Timers.run sortedEvents rearmed = some timers ∧
    ((timers.scheduler.dispatchAll sortedEvents 10
        timers.scheduler.eventQueue.events.length).2.dispatch sortedEvents 10).1 = none ∧
      timers.Prompt sortedEvents 10 := by
  obtain ⟨timers, ran, due, alike, -⟩ := rearmed_alike
  obtain ⟨ends, prompt⟩ := due_timers_returned_iff ran 10
  exact ⟨timers, ran, ends, prompt.mpr (.inr ⟨due, alike⟩)⟩

/-- An early timer waits behind a late one, and two due timers come out the later one first. -/
theorem due_timer_left_behind :
    (Timers.run sortedEvents
        [.addEvent () 100 .proposeTimeout, .addEvent () 10 .acceptTimeout]).map
      (fun timers => (timers.armed .acceptTimeout,
        (timers.scheduler.dispatchAll sortedEvents 50 2).1,
        (timers.scheduler.dispatchAll sortedEvents 200 2).1)) =
      some (some ⟨(), 10, .acceptTimeout, 2⟩, [],
        [⟨(), 100, .proposeTimeout, 1⟩, ⟨(), 10, .acceptTimeout, 2⟩]) := by
  decide

/-- What `NextEventTime` is to do: it reads no empty queue, returns false exactly when no timer is
armed, and finds the time of an earliest one otherwise. -/
def Timers.NextRight (heap : EventHeap τ β) (timers : Timers τ β) : Prop :=
  match timers.scheduler.nextEventTime heap with
  | none => False
  | some (none, _) => ∀ eventType, timers.armed eventType = none
  | some (some when, _) => (∃ eventType event, timers.armed eventType = some event ∧
      event.when = when) ∧
    ∀ eventType event, timers.armed eventType = some event → when ≤ event.when

/-- `NextEventTime` is right exactly when there is no event at all, or a timer is armed and all
that are are so for one time. -/
theorem next_event_time_iff {calls : List (SchedulerCall τ β)}
    (ran : Timers.run heap calls = some timers) :
    timers.NextRight heap ↔ timers.scheduler.eventQueue.events = [] ∨
      ((∃ eventType event, timers.armed eventType = some event) ∧ timers.Alike) := by
  have sound := (Timers.run_sound ran).1
  rw [Timers.NextRight]
  rcases sound.nextEventTime heap with ⟨events, idle⟩ | ⟨events, ⟨broken, none⟩ | found⟩
  · rw [idle]
    refine iff_of_true (fun eventType => ?_) (Or.inl events)
    cases armed : timers.armed eventType with
    | none => rfl
    | some event =>
      have member := ((sound.armed eventType event).mp armed).1
      rw [events] at member
      cases member
  · rw [broken]
    refine iff_of_false not_false ?_
    rintro (empty | ⟨⟨eventType, event, armed⟩, -⟩)
    · exact events empty
    · rw [none] at armed
      cases armed
  · obtain ⟨first, after, found, armed, latest, -, -⟩ := found
    rw [found]
    constructor
    · rintro ⟨-, earliest⟩
      refine Or.inr ⟨⟨_, first, armed⟩, fun eventType event other kind live live' => ?_⟩
      have before := earliest eventType event live
      have behind := latest eventType event live
      have before' := earliest kind other live'
      have behind' := latest kind other live'
      omega
    · rintro (empty | ⟨-, alike⟩)
      · exact absurd empty events
      · exact ⟨⟨_, first, armed, rfl⟩, fun eventType event live =>
          le_of_eq (alike _ _ _ _ armed live)⟩

/-- The time of two timers is found behind an event that has been replaced. -/
theorem next_event_time_only : ∃ timers,
    Timers.run sortedEvents rearmed = some timers ∧ timers.NextRight sortedEvents := by
  obtain ⟨timers, ran, -, alike, armed⟩ := rearmed_alike
  exact ⟨timers, ran, (next_event_time_iff ran).mpr (.inr ⟨armed, alike⟩)⟩

/-- Once the only timer is removed the front of an empty queue is read, and of two timers the
later one is found. -/
theorem next_event_time_wrong :
    (Timers.run sortedEvents [.addEvent () 9 .proposeTimeout, .remove .proposeTimeout]).map
        (fun timers => (timers.armed .proposeTimeout,
          (timers.scheduler.nextEventTime sortedEvents).map Prod.fst)) = some (none, none) ∧
      (Timers.run sortedEvents
        [.addEvent () 100 .proposeTimeout, .addEvent () 10 .acceptTimeout]).map
        (fun timers => (timers.armed .acceptTimeout,
          (timers.scheduler.nextEventTime sortedEvents).map Prod.fst)) =
        some (some ⟨(), 10, .acceptTimeout, 2⟩, some (some 100)) := by
  decide

end Paxosme
