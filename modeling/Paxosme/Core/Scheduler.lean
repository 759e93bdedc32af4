import Mathlib.Logic.Function.Basic
import Paxosme.Lib.Heap

/-!
# The scheduler

`Scheduler` keeps its events in a heap that is ordered by `Event::operator<`, with the latest time
first. `AddEvent` makes an event the one of its type by noting its id, `Remove` forgets the note,
and an event without its note is skipped when it comes out of the heap.

`EventTimeStamp` is an integer, and `EventId` a natural number, which does not wrap around. The types and the
callbacks of events are parameters. The clock is read once in each call of `Dispatch`.
-/

namespace Paxosme

/-- `Event`. -/
structure Event (τ β : Type) where
  /-- `callback`. -/
  callback : β
  /-- `when`. -/
  when : Int
  /-- `eventType`. -/
  eventType : τ
  /-- `eventId`. -/
  eventId : Nat
  deriving DecidableEq, Repr

/-- `std::push_heap` and `std::pop_heap` on events, which are compared by `Event::operator<`. -/
abbrev EventHeap (τ β : Type) := Heap.Functions (Event.when (τ := τ) (β := β))

/-- `EventQueue`. -/
structure EventQueue (τ β : Type) where
  /-- `events_`. -/
  events : List (Event τ β) := []

namespace EventQueue

variable {τ β : Type} (heap : EventHeap τ β)

/-- `EventQueue::Push`. -/
def push (queue : EventQueue τ β) (event : Event τ β) : EventQueue τ β :=
  ⟨heap.pushHeap (queue.events ++ [event])⟩

/-- `EventQueue::HasTimeout`, when the clock reads `now`. -/
def hasTimeout (queue : EventQueue τ β) (now : Int) : Bool :=
  match queue.events with
  | [] => false
  | front :: _ => if now < front.when then false else true

/-- `EventQueue::PopOne` — the event that it assigns, and the events that stay. -/
def popOne (queue : EventQueue τ β) : Option (Event τ β × EventQueue τ β) :=
  let events := heap.popHeap queue.events
  if queue.events = [] then none
  else events.getLast?.map fun event => (event, ⟨events.dropLast⟩)

/-- `EventQueue::Empty`. -/
def empty (queue : EventQueue τ β) : Bool := queue.events.isEmpty

/-- `EventQueue::Next`, with nothing for the front of an empty vector. -/
def next (queue : EventQueue τ β) : Option (Event τ β) := queue.events.head?

end EventQueue

/-- `Scheduler`. -/
structure Scheduler (τ β : Type) where
  /-- `eventTypeIdMap_`. -/
  eventTypeIdMap : τ → Option Nat := fun _ => none
  /-- `eventQueue_`. -/
  eventQueue : EventQueue τ β := {}
  /-- `eventId_`. -/
  eventId : Nat := 0

namespace Scheduler

variable {τ β : Type} [DecidableEq τ] (heap : EventHeap τ β)

/-- `eventTypeIdMap_[eventType]`, which inserts a zero where there is no entry. -/
def idOf (scheduler : Scheduler τ β) (eventType : τ) : Nat × Scheduler τ β :=
  match scheduler.eventTypeIdMap eventType with
  | some eventId => (eventId, scheduler)
  | none => (0, { scheduler with
      eventTypeIdMap := Function.update scheduler.eventTypeIdMap eventType (some 0) })

/-- `Scheduler::AddEvent`. -/
def addEvent (scheduler : Scheduler τ β) (callback : β) (when : Int)
    (eventType : τ) : Scheduler τ β :=
  let eventId := scheduler.eventId + 1
  { eventId
    eventQueue := scheduler.eventQueue.push heap { callback, when, eventType, eventId }
    eventTypeIdMap := Function.update scheduler.eventTypeIdMap eventType (some eventId) }

/-- The loop of `Scheduler::Dispatch`, for at most so many events. -/
def dispatchLoop : Nat → Scheduler τ β → Option (Event τ β) × Scheduler τ β
  | 0, scheduler => (none, scheduler)
  | count + 1, scheduler =>
    match scheduler.eventQueue.popOne heap with
    | none => (none, scheduler)
    | some (event, eventQueue) =>
      let (eventId, scheduler) := idOf { scheduler with eventQueue } event.eventType
      if eventId ≠ event.eventId then dispatchLoop count scheduler
      else (some event, scheduler)

/-- `Scheduler::Dispatch` — the event that is returned, when the clock reads `now`. Each turn of
the loop takes an event from the queue. -/
def dispatch (scheduler : Scheduler τ β) (now : Int) :
    Option (Event τ β) × Scheduler τ β :=
  if !scheduler.eventQueue.hasTimeout now then (none, scheduler)
  else dispatchLoop heap scheduler.eventQueue.events.length scheduler

/-- The loop of `Scheduler::NextEventTime`, for at most so many events; no result once the front
of an empty queue is read. -/
def nextLoop : Nat → Scheduler τ β → Option (Int × Scheduler τ β)
  | 0, _ => none
  | count + 1, scheduler => do
    let e ← scheduler.eventQueue.next
    let (eventId, scheduler) := scheduler.idOf e.eventType
    if eventId ≠ e.eventId then
      let (_, eventQueue) ← scheduler.eventQueue.popOne heap
      nextLoop count { scheduler with eventQueue }
    else some (e.when, scheduler)

/-- `Scheduler::NextEventTime` — the time that it assigns, if it returns true. -/
def nextEventTime (scheduler : Scheduler τ β) :
    Option (Option Int × Scheduler τ β) :=
  if scheduler.eventQueue.empty then some (none, scheduler)
  else (nextLoop heap scheduler.eventQueue.events.length scheduler).map
    fun (when, scheduler) => (some when, scheduler)

/-- `Scheduler::Remove`. -/
def remove (scheduler : Scheduler τ β) (eventType : τ) : Scheduler τ β :=
  { scheduler with eventTypeIdMap := Function.update scheduler.eventTypeIdMap eventType none }

/-- `Dispatch` is called again and again until it returns false, at most so many times, as
`PaxController::MainLoop` does — the events that it returns. -/
def dispatchAll (now : Int) : Nat → Scheduler τ β → List (Event τ β) × Scheduler τ β
  | 0, scheduler => ([], scheduler)
  | count + 1, scheduler =>
    match scheduler.dispatch heap now with
    | (none, scheduler) => ([], scheduler)
    | (some event, scheduler) =>
      let (events, scheduler) := dispatchAll now count scheduler
      (event :: events, scheduler)

end Scheduler

end Paxosme
