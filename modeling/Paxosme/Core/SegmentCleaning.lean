import Paxosme.Core.Scheduler
import Paxosme.Core.SegmentStore

/-!
# Cleaning of segments

`RemoveAsync` adds an event to `scheduler_` that deletes the segment of a record, and the thread
behind `segment_clean_future_` takes the events of `scheduler_` one after another and calls them.
All of them have one type. Times are in milliseconds.
-/

namespace Paxosme

open Posix

/-- `EventType`, as far as `scheduler_` of a store has it. -/
inductive CleanEventType where
  /-- `kEVENT_CLEAN_SEGMENT`. -/
  | cleanSegment
  deriving DecidableEq, Repr

/-- `delayInMilli` of `RemoveAsync`, `1000 * SEGMENT_CLEAN_DELAY_IN_SECONDS`. -/
def segmentCleanDelay : Int := 1000 * 10

/-- `scheduler_`; an event calls `DeleteSegment` of the segment that it carries. -/
abbrev CleanScheduler := Scheduler CleanEventType SegmentId

namespace LogSegmentStore

variable (heap : EventHeap CleanEventType SegmentId)

/-- `RemoveAsync` with what it does to `scheduler_`, when the clock reads `now`. -/
def removeAsyncAt (scheduler : CleanScheduler) (now : Int) (segmentIndex : SegmentIndex) :
    Sys FileName (Bool × CleanScheduler) := do
  let (removed, segments) ← removeAsync segmentIndex
  pure (removed, segments.foldl (fun scheduler segmentId =>
    scheduler.addEvent heap segmentId (now + segmentCleanDelay) .cleanSegment) scheduler)

/-- One turn of the loop of `AutoDispatch`, when the clock reads `now`. -/
def autoDispatch (scheduler : CleanScheduler) (now : Int) : Sys FileName CleanScheduler :=
  match scheduler.dispatch heap now with
  | (none, scheduler) => pure scheduler
  | (some event, scheduler) => do
    let _ ← deleteSegment event.callback
    pure scheduler

end LogSegmentStore

end Paxosme
