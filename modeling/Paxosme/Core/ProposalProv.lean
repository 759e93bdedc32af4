import Paxosme.Core.Node

/-!
# The provider of new values

Client threads put their values into a queue and wait for a result; the proposer flushes the
value at the front and writes a result for it. Each function of `ProposalProv` holds its lock
from its first line to its last, up to the wait in `SubmitAndWait`, so a function is one step and
the rest of `SubmitAndWait` after the wait is another. `Flush` and `WriteResult` work on a copy of
the element at the front, and what they assign to it does not reach the queue.
-/

namespace Paxosme

/-- `index_t`. -/
abbrev Index := UInt64

/-- The values of `NewValueResult` that the provider reads and writes. -/
inductive PendingResult where
  | kValueNone
  | kValueTimeout
  | kValueAccepted
  | kVALUE_ACCEPTED_WIN
  | kVALUE_ACCEPTED_LOSE
  | kTOO_MANY_VALUES
  deriving DecidableEq, Repr

/-- `PendingNewValue`. -/
structure PendingNewValue where
  /-- What `logValue` points to. -/
  logValue : LogValue
  /-- `index`. -/
  index : Index
  /-- `newValueResult`. -/
  newValueResult : PendingResult
  /-- `instanceId`; zero means that the value has not been flushed. -/
  instanceId : InstanceId
  deriving DecidableEq, Repr

/-- `ProposalProv`. -/
structure ProposalProv where
  /-- `index_`. -/
  index : Index
  /-- `finish_index_`. -/
  finishIndex : Index
  /-- `queue_`, its front first. -/
  queue : List PendingNewValue := []
  /-- `limit_` of the queue. -/
  limit : Nat
  /-- What `paxController_->AddMessage` has been given. -/
  messages : List PaxMessage := []

namespace ProposalProv

/-- `ProposalProv::SubmitAndWait` up to the wait: the index that the value waits under, if the
queue takes it. -/
def submitAndWait (prov : ProposalProv) (value : LogValue) : ProposalProv × Option Index :=
  let i := prov.index
  let prov := { prov with index := prov.index + 1 }
  if prov.queue.length < prov.limit then
    ({ prov with
        queue := prov.queue ++ [⟨value, i, .kValueNone, instanceDummy⟩]
        messages := prov.messages ++ [PaxMessage.new nodeDummy .newValueCommitted] }, some i)
  else (prov, none)

/-- `ProposalProv::SubmitAndWait` after the wait: the result at the front, which is popped. -/
def submitted (prov : ProposalProv) : ProposalProv × PendingResult :=
  match prov.queue with
  | [] => (prov, .kValueNone)
  | front :: rest => ({ prov with queue := rest }, front.newValueResult)

/-- `ProposalProv::Flush` — the value that it delivers, if any. The instance id is assigned to a
copy of the front. -/
def flush (prov : ProposalProv) (instanceId : InstanceId) : ProposalProv × Option LogValue :=
  match prov.queue with
  | [] => (prov, none)
  | front :: _ =>
    let pendingNewValue := front
    if pendingNewValue.instanceId ≠ 0 then (prov, none)
    else
      let logValue := pendingNewValue.logValue
      let _pendingNewValue := { pendingNewValue with instanceId }
      (prov, some logValue)

/-- What `WriteResult` records for a value, given the value that was chosen. -/
def resultFor (value chosen : LogValue) (result : PendingResult) : PendingResult :=
  if result ≠ .kValueAccepted then result
  else if value = chosen then .kVALUE_ACCEPTED_WIN else .kVALUE_ACCEPTED_LOSE

/-- `ProposalProv::WriteResult`. The result is assigned to a copy of the front, and `NotifyAll`
wakes nobody. -/
def writeResult (prov : ProposalProv) (logValue : LogValue) (_instanceId : InstanceId)
    (result : PendingResult) : ProposalProv × Bool :=
  match prov.queue with
  | [] => (prov, false)
  | front :: _ =>
    let pendingNewValue := front
    if pendingNewValue.instanceId = 0 then (prov, false)
    else
      let pendingNewValue :=
        { pendingNewValue with
          newValueResult := resultFor pendingNewValue.logValue logValue result }
      ({ prov with finishIndex := pendingNewValue.index }, true)

/-- A queue of values that are marked as not flushed. -/
def Unmarked (prov : ProposalProv) : Prop := ∀ pending ∈ prov.queue, pending.instanceId = 0

/-- A flush changes nothing, and delivers the value at the front of an unmarked queue. -/
theorem flush_unmarked (prov : ProposalProv) (unmarked : prov.Unmarked)
    (instanceId : InstanceId) :
    prov.flush instanceId = (prov, prov.queue.head?.map PendingNewValue.logValue) := by
  cases queued : prov.queue with
  | nil => simp [flush, queued]
  | cons front rest =>
    have zero : front.instanceId = 0 := unmarked front (by simp [queued])
    simp [flush, queued, zero]

/-- A result is not written into an unmarked queue. -/
theorem writeResult_unmarked (prov : ProposalProv) (unmarked : prov.Unmarked)
    (logValue : LogValue) (instanceId : InstanceId) (result : PendingResult) :
    prov.writeResult logValue instanceId result = (prov, false) := by
  cases queued : prov.queue with
  | nil => simp [writeResult, queued]
  | cons front rest =>
    have zero : front.instanceId = 0 := unmarked front (by simp [queued])
    simp [writeResult, queued, zero]

/-- What a submission leaves: the queue grows by an unmarked value, or is full. -/
theorem submitAndWait_eq (prov : ProposalProv) (value : LogValue) :
    prov.submitAndWait value =
      if prov.queue.length < prov.limit then
        ({ prov with
            index := prov.index + 1
            queue := prov.queue ++ [⟨value, prov.index, .kValueNone, 0⟩]
            messages := prov.messages ++ [PaxMessage.new nodeDummy .newValueCommitted] },
          some prov.index)
      else ({ prov with index := prov.index + 1 }, none) := rfl

end ProposalProv

end Paxosme
