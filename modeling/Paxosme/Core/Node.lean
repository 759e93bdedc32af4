import Paxosme.Core.Messages
import Mathlib

/-!
# The state of one node

A `PaxController` owns one proposer, one acceptor and one learner, and the three share its
options, its instance id and its log storage. The record `Node` is that whole, so a member
function of a player is a function from a node to a node. What a player hands to objects
outside the three (the communicator, the scheduler, the state machine, the provider of new
values, the log) is recorded in `Node.calls` in the order of the calls; `learnNew` records in
the same way each value that `PaxLearner::LearnNew` stores.
-/

namespace Paxosme

/-- `PaxosOptions`. The threshold is an exact rational in place of a double. -/
structure PaxosOptions where
  /-- `node_id_`. -/
  nodeId : NodeId
  /-- `majority_threshold_`. -/
  majorityThreshold : ℚ
  /-- `member_count_`. -/
  memberCount : Nat
  /-- What the conversion of a number that no `size_t` holds gives. The language leaves it
  undefined. -/
  undefinedSize : UInt64

namespace PaxosOptions

/-- The conversion of an integral number to a `size_t`. -/
def toSize (options : PaxosOptions) (number : Int) : Nat :=
  if 0 ≤ number ∧ number < 2 ^ 64 then number.toNat else options.undefinedSize.toNat

/-- `PaxosOptions::GetMajorityCount`. -/
def getMajorityCount (options : PaxosOptions) : Nat :=
  options.toSize ⌈options.majorityThreshold * options.memberCount⌉

end PaxosOptions

/-- `EventType`, the timers of the players. -/
inductive EventType where
  | proposeTimeout
  | acceptTimeout
  | newValueTimeout
  | shallILearn
  deriving DecidableEq, Repr

/-- The callback of a timer: the function it calls and what its closure captured. -/
inductive TimerCallback where
  | proposeTimeoutCallback (instanceId : InstanceId)
  | newValueTimeoutCallback
  | shallLearn
  deriving DecidableEq, Repr

/-- `NewValueResult`, the results that the proposer writes. -/
inductive NewValueResult where
  | valueTimeout
  | valueAccepted
  deriving DecidableEq, Repr

/-- One call that leaves the players, or one value recorded by `PaxLearner::LearnNew`. -/
inductive Call where
  | send (nodeId : NodeId) (message : PaxMessage)
  | broadcast (message : PaxMessage)
  | addEvent (eventType : EventType) (callback : TimerCallback) (delay : Millisec)
  | removeEvent (eventType : EventType)
  | writeLog (entry : PaxosLogEntry)
  | flush (instanceId : InstanceId) (value : LogValue)
  | writeResult (value : LogValue) (instanceId : InstanceId) (result : NewValueResult)
  | execute (instanceId : InstanceId) (value : LogValue)
  | learnNew (value : LogValue) (instanceId : InstanceId) (proposalId : ProposalId)
      (proposer : NodeId)
  deriving DecidableEq, Repr

/-- `AcceptorState`. -/
structure AcceptorState where
  /-- `promised_proposal_id_`. -/
  promisedProposalId : ProposalId := proposalDummy
  /-- `promised_node_id_`. -/
  promisedNodeId : NodeId := nodeDummy
  /-- `accepted_proposal_id_`. -/
  acceptedProposalId : ProposalId := proposalDummy
  /-- `accepted_proposer_`. -/
  acceptedProposer : NodeId := nodeDummy
  /-- `accepted_value_`. -/
  acceptedValue : LogValue := []
  deriving DecidableEq, Repr

namespace AcceptorState

/-- `AcceptorState::SetPromisedProposal`. -/
def setPromisedProposal (state : AcceptorState) (proposalId : ProposalId)
    (proposerId : NodeId) : AcceptorState :=
  { state with promisedProposalId := proposalId, promisedNodeId := proposerId }

/-- `AcceptorState::SetAcceptedProposal`. Both assignments of the source read `proposer_id`;
the proposal id is not used. -/
def setAcceptedProposal (state : AcceptorState) (_proposalId : ProposalId)
    (proposerId : NodeId) : AcceptorState :=
  { state with acceptedProposalId := proposerId, acceptedProposer := proposerId }

/-- `AcceptorState::SetAcceptedValue`. -/
def setAcceptedValue (state : AcceptorState) (acceptedValue : LogValue) : AcceptorState :=
  { state with acceptedValue }

/-- `AcceptorState::Reset`. -/
def reset (_state : AcceptorState) : AcceptorState := {}

end AcceptorState

/-- `ProposerStatus`. -/
inductive ProposerStatus where
  | kNone
  | kPropose
  | kAccept
  | kMajorityAccepted
  | kMajorityRejected
  deriving DecidableEq, Repr

/-- `ProposerState`. -/
structure ProposerState where
  /-- `log_value_`. -/
  logValue : LogValue := []
  /-- `highest_known_proposal_`. -/
  highestKnownProposal : ProposalId := proposalDummy
  /-- `my_proposal_id_`. -/
  myProposalId : ProposalId := 1
  /-- `highest_proposal_provider_`. -/
  highestProposalProvider : NodeId := nodeDummy
  deriving DecidableEq, Repr

namespace ProposerState

/-- `ProposerState::TryUpdateHighestProposalId` — the new state and the returned flag. -/
def tryUpdateHighestProposalId (state : ProposerState) (proposalId : ProposalId)
    (nodeId : NodeId) : ProposerState × Bool :=
  if proposalId < state.highestKnownProposal then (state, false)
  else if state.highestKnownProposal < proposalId ∨ state.highestProposalProvider < nodeId then
    ({ state with highestKnownProposal := proposalId, highestProposalProvider := nodeId }, true)
  else (state, false)

/-- `ProposerState::TryUpdateLogValue`. -/
def tryUpdateLogValue (state : ProposerState) (proposalId : ProposalId) (nodeId : NodeId)
    (logValue : LogValue) : ProposerState × Bool :=
  let (state, updated) := state.tryUpdateHighestProposalId proposalId nodeId
  if updated then ({ state with logValue }, true) else (state, false)

/-- `ProposerState::SetLogValue`. -/
def setLogValue (state : ProposerState) (logValue : LogValue) : ProposerState :=
  { state with logValue }

/-- `ProposerState::NewProposalId` — the addition wraps round. -/
def newProposalId (state : ProposerState) : ProposerState :=
  let base := if state.highestKnownProposal < state.myProposalId then state.myProposalId
    else state.highestKnownProposal
  { state with myProposalId := base + 1 }

/-- `ProposerState::Reset` — the own number is kept. -/
def reset (state : ProposerState) : ProposerState :=
  { state with highestKnownProposal := proposalDummy, highestProposalProvider := nodeDummy,
               logValue := [] }

end ProposerState

/-- `ProposalCounter`. The options it points to are read from the node. `vote_count_` counts
up from zero, one per member that enters a set. -/
structure ProposalCounter where
  /-- `vote_count_`. -/
  voteCount : Nat := 0
  /-- `approvals_`. -/
  approvals : Finset NodeId := ∅
  /-- `promises_`. -/
  promises : Finset NodeId := ∅
  /-- `rejections_`. -/
  rejections : Finset NodeId := ∅
  deriving DecidableEq

namespace ProposalCounter

/-- `ProposalCounter::IsMajorityAccepted`. -/
def isMajorityAccepted (counter : ProposalCounter) (options : PaxosOptions) : Bool :=
  options.getMajorityCount ≤ counter.approvals.card

/-- `ProposalCounter::IsMajorityPromised`. -/
def isMajorityPromised (counter : ProposalCounter) (options : PaxosOptions) : Bool :=
  options.getMajorityCount ≤ counter.promises.card

/-- `ProposalCounter::IsMajorityRejected`. -/
def isMajorityRejected (counter : ProposalCounter) (options : PaxosOptions) : Bool :=
  options.getMajorityCount ≤ counter.rejections.card

/-- `ProposalCounter::IsStillPending`. -/
def isStillPending (counter : ProposalCounter) (options : PaxosOptions) : Bool :=
  options.memberCount ≤ counter.voteCount

/-- `ProposalCounter::AddAccept`. -/
def addAccept (counter : ProposalCounter) (nodeId : NodeId) : ProposalCounter :=
  if nodeId ∈ counter.approvals then counter
  else { counter with approvals := insert nodeId counter.approvals,
                      voteCount := counter.voteCount + 1 }

/-- `ProposalCounter::AddRejection`. -/
def addRejection (counter : ProposalCounter) (nodeId : NodeId) : ProposalCounter :=
  if nodeId ∈ counter.rejections then counter
  else { counter with rejections := insert nodeId counter.rejections,
                      voteCount := counter.voteCount + 1 }

/-- `ProposalCounter::AddPromise`. -/
def addPromise (counter : ProposalCounter) (nodeId : NodeId) : ProposalCounter :=
  if nodeId ∈ counter.promises then counter
  else { counter with promises := insert nodeId counter.promises,
                      voteCount := counter.voteCount + 1 }

/-- `ProposalCounter::Reset`. -/
def reset (_counter : ProposalCounter) : ProposalCounter := {}

/-- `ProposalCounter::SomeoneReject`. -/
def someoneReject (counter : ProposalCounter) : Bool := counter.rejections ≠ ∅

end ProposalCounter

/-- The members of `PaxProposer`. -/
structure PaxProposer where
  /-- `status_`. -/
  status : ProposerStatus := .kNone
  /-- `proposal_counter_`. -/
  proposalCounter : ProposalCounter := {}
  /-- `proposer_state_`. -/
  proposerState : ProposerState := {}
  deriving DecidableEq

/-- `PaxLearnerState`. -/
structure PaxLearnerState where
  /-- `log_value_`. -/
  logValue : LogValue := []
  /-- `learned_`. -/
  learned : Bool := false
  deriving DecidableEq, Repr

/-- `LearnerSendingJobStatus`. -/
inductive LearnerSendingJobStatus where
  | kStale
  | kPrepared
  | kSending
  deriving DecidableEq, Repr

/-- Where the sending thread stands in `SendingLoop`, with the locals it holds there. -/
inductive SendingPoint where
  /-- In `WaitForReady`, waiting for a prepared job. -/
  | waitForReady
  /-- After `WaitForReady`, before the arguments of `SendLearnedValues` are read. -/
  | call
  /-- At the test of `receiver_` that opens `SendLearnedValues`. -/
  | matchReceiver (beginInstanceId : InstanceId) (receiver : NodeId)
  /-- At the head of the sending loop. -/
  | loopHead (toSend : InstanceId) (receiver : NodeId)
  /-- At the head of the waiting loop, holding the lock. -/
  | awaitAck (lastSend toSend : InstanceId) (receiver : NodeId)
  /-- Before `ClearSendingState`. -/
  | clear
  deriving DecidableEq, Repr

/-- The members of `PaxLearner`, with the position of its sending thread. -/
structure PaxLearner where
  /-- `learner_state_`. -/
  learnerState : PaxLearnerState := {}
  /-- `highest_known_instance_id_`. -/
  highestKnownInstanceId : InstanceId := instanceDummy
  /-- `is_learning_`. -/
  isLearning : Bool := false
  /-- Whether the main thread holds `mutex_follow_`. -/
  mutexFollow : Bool := false
  /-- `job_status_`. -/
  jobStatus : LearnerSendingJobStatus := .kStale
  /-- `receiver_`. -/
  receiver : NodeId := nodeDummy
  /-- `begin_instance_id_`. -/
  beginInstanceId : InstanceId := instanceDummy
  /-- `ack_send_`. -/
  ackSend : InstanceId := instanceDummy
  /-- The position of `learner_send_loop_`. -/
  sendingPoint : SendingPoint := .waitForReady
  deriving DecidableEq, Repr

/-- `PaxStore` over a log storage that keeps, under each key, the last record put there. -/
abbrev PaxStore := String → Option PaxosLogEntry

namespace PaxStore

/-- `std::to_string` of an instance id, the key of its record. -/
def key (instanceId : InstanceId) : String := instanceId.toNat.repr

/-- `PaxStore::WriteLog`. -/
def writeLog (storage : PaxStore) (entry : PaxosLogEntry) : PaxStore :=
  Function.update storage (key entry.instanceId) (some entry)

/-- `PaxStore::ReadLog`. -/
def readLog (storage : PaxStore) (instanceId : InstanceId) : Option PaxosLogEntry :=
  storage (key instanceId)

/-- Two instances with one key are one instance. -/
theorem key_injective : Function.Injective key := fun _ _ same =>
  UInt64.toNat_inj.mp (Nat.repr_inj.mp same)

/-- A written record is read back under its instance. -/
@[simp] theorem readLog_writeLog (storage : PaxStore) (entry : PaxosLogEntry) :
    readLog (writeLog storage entry) entry.instanceId = some entry :=
  Function.update_self _ _ _

/-- A write leaves the records of other instances. -/
theorem readLog_writeLog_of_ne (storage : PaxStore) (entry : PaxosLogEntry)
    (instanceId : InstanceId) (other : instanceId ≠ entry.instanceId) :
    readLog (writeLog storage entry) instanceId = readLog storage instanceId :=
  Function.update_of_ne (fun same => other (key_injective same)) _ _

end PaxStore

/-- `PaxController` with the three players it owns. -/
structure Node where
  /-- `pax_config_`. -/
  options : PaxosOptions
  /-- `instance_id_`. -/
  instanceId : InstanceId
  /-- `proposer_`. -/
  proposer : PaxProposer := {}
  /-- The `acceptor_state_` of `acceptor_`. -/
  acceptor : AcceptorState := {}
  /-- `learner_`. -/
  learner : PaxLearner := {}
  /-- `storage_` of the players. -/
  storage : PaxStore := fun _ => none
  /-- Whether the main thread waits for ever on a mutex that it holds itself. -/
  blocked : Bool := false
  /-- The calls made so far, oldest first. -/
  calls : List Call := []

/-- `ProposalTriplet`. -/
structure ProposalTriplet where
  /-- `instance_id`. -/
  instanceId : InstanceId
  /-- `proposal_id`. -/
  proposalId : ProposalId
  /-- `node_id`. -/
  nodeId : NodeId

namespace Node

/-- A node with players as they are constructed, on an empty log storage; `PaxController::Init`
gives the proposer the number after the accepted one, zero. -/
def fresh (options : PaxosOptions) (instanceId : InstanceId) : Node := { options, instanceId }

/-- Record one call. -/
def record (node : Node) (call : Call) : Node := { node with calls := node.calls ++ [call] }

/-- `PaxPlayer::GetNodeId`. -/
def getNodeId (node : Node) : NodeId := node.options.nodeId

/-- `PaxPlayer::SendMessage`. -/
def sendMessage (node : Node) (message : PaxMessage) (nodeId : NodeId) : Node :=
  node.record (.send nodeId message)

/-- `PaxPlayer::BroadCastMessage`. -/
def broadCastMessage (node : Node) (message : PaxMessage) : Node :=
  node.record (.broadcast message)

/-- `PaxPlayer::WriteState`. -/
def writeState (node : Node) (entry : PaxosLogEntry) : Node :=
  { node with storage := node.storage.writeLog entry }.record (.writeLog entry)

/-- `PaxPlayer::ReadState` — an absent record reads as the default one. -/
def readState (node : Node) (instanceId : InstanceId) : PaxosLogEntry :=
  (node.storage.readLog instanceId).getD {}

/-- `PaxPlayer::Publish`. -/
def publish (node : Node) (eventType : EventType) (callback : TimerCallback)
    (delay : Millisec) : Node :=
  node.record (.addEvent eventType callback delay)

/-- `PaxPlayer::Withdraw`. -/
def withdraw (node : Node) (eventType : EventType) : Node := node.record (.removeEvent eventType)

/-- `PaxController::GetAcceptedProposal`. -/
def getAcceptedProposal (node : Node) : ProposalTriplet :=
  ⟨node.instanceId, node.acceptor.acceptedProposalId, node.acceptor.acceptedProposer⟩

/-- `PaxPlayer::GetAccepted`, the value `PaxController::GetAcceptedValue` returns. -/
def getAccepted (node : Node) : LogValue := node.acceptor.acceptedValue

/-- The calls a node has made since an earlier state. -/
def callsSince (before after : Node) : List Call := after.calls.drop before.calls.length

/-- The messages among some calls that were sent to one node, with the node addressed. -/
def sends (calls : List Call) : List (NodeId × PaxMessage) :=
  calls.filterMap fun
    | .send nodeId message => some (nodeId, message)
    | _ => none

/-- The messages among some calls that were broadcast. -/
def broadcasts (calls : List Call) : List PaxMessage :=
  calls.filterMap fun
    | .broadcast message => some message
    | _ => none

/-- The records written among some calls, oldest first. -/
def written (calls : List Call) : List PaxosLogEntry :=
  calls.filterMap fun
    | .writeLog entry => some entry
    | _ => none

/-- The values learned among some calls, each with its instance, oldest first. -/
def learned (calls : List Call) : List (LogValue × InstanceId) :=
  calls.filterMap fun
    | .learnNew value instanceId _ _ => some (value, instanceId)
    | _ => none

/-- The instances executed among some calls, oldest first. -/
def executed (calls : List Call) : List InstanceId :=
  calls.filterMap fun
    | .execute instanceId _ => some instanceId
    | _ => none

@[simp] theorem broadcasts_append (first second : List Call) :
    broadcasts (first ++ second) = broadcasts first ++ broadcasts second :=
  List.filterMap_append

/-- A message is broadcast by a call that says so. -/
theorem mem_broadcasts {calls : List Call} {message : PaxMessage} :
    message ∈ broadcasts calls ↔ .broadcast message ∈ calls := by
  constructor
  · intro member
    obtain ⟨call, called, found⟩ := List.mem_filterMap.mp member
    cases call with
    | broadcast other => exact Option.some.inj found ▸ called
    | _ => simp at found
  · intro called
    exact List.mem_filterMap.mpr ⟨_, called, rfl⟩

/-- A message is sent by a call that says so. -/
theorem mem_sends {calls : List Call} {nodeId : NodeId} {message : PaxMessage} :
    (nodeId, message) ∈ sends calls ↔ .send nodeId message ∈ calls := by
  constructor
  · intro member
    obtain ⟨call, called, found⟩ := List.mem_filterMap.mp member
    cases call with
    | send other sent =>
      obtain ⟨sameId, same⟩ := Prod.mk.inj (Option.some.inj found)
      exact sameId ▸ same ▸ called
    | _ => simp at found
  · intro called
    exact List.mem_filterMap.mpr ⟨_, called, rfl⟩

@[simp] theorem written_append (first second : List Call) :
    written (first ++ second) = written first ++ written second :=
  List.filterMap_append

@[simp] theorem learned_append (first second : List Call) :
    learned (first ++ second) = learned first ++ learned second :=
  List.filterMap_append

@[simp] theorem executed_append (first second : List Call) :
    executed (first ++ second) = executed first ++ executed second :=
  List.filterMap_append

/-- The calls since a state whose calls are a prefix. -/
theorem callsSince_of_append {before after : Node} {later : List Call}
    (appended : after.calls = before.calls ++ later) : callsSince before after = later := by
  rw [callsSince, appended, List.drop_left]

/-- The calls made between two states all have a property. -/
def Adds (ok : Call → Prop) (before after : Node) : Prop :=
  ∃ later, after.calls = before.calls ++ later ∧ ∀ call ∈ later, ok call

section Adds

variable {ok : Call → Prop} {first second third : Node}

/-- Nothing is added where the calls are the same. -/
theorem adds_of_eq (same : second.calls = first.calls) : Adds ok first second :=
  ⟨[], by rw [same, List.append_nil], by simp⟩

/-- One call is added. -/
theorem adds_record (node : Node) (call : Call) (fine : ok call) :
    Adds ok node (node.record call) :=
  ⟨[call], rfl, by simpa using fine⟩

/-- What is added in two steps is added in one. -/
theorem Adds.trans (before : Adds ok first second) (after : Adds ok second third) :
    Adds ok first third := by
  obtain ⟨early, appended, fine⟩ := before
  obtain ⟨late, appended', fine'⟩ := after
  refine ⟨early ++ late, by rw [appended', appended, List.append_assoc], fun call member => ?_⟩
  rcases List.mem_append.mp member with old | new
  · exact fine call old
  · exact fine' call new

/-- A weaker property. -/
theorem Adds.mono {weaker : Call → Prop} (adds : Adds ok first second)
    (implies : ∀ call, ok call → weaker call) : Adds weaker first second := by
  obtain ⟨later, appended, fine⟩ := adds
  exact ⟨later, appended, fun call member => implies call (fine call member)⟩

/-- Every call made since has the property. -/
theorem Adds.callsSince (adds : Adds ok first second) :
    ∀ call ∈ callsSince first second, ok call := by
  obtain ⟨later, appended, fine⟩ := adds
  rw [callsSince_of_append appended]
  exact fine

end Adds

end Node

end Paxosme
