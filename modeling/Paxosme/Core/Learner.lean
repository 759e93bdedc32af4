import Paxosme.Core.Node

/-!
# The learner

The member functions of `PaxLearner` in `learner_pax.cpp`, `learner_follow.cpp` and
`learner_lead.cpp`. The main thread runs the handlers and the timer; the sending thread runs
`SendingLoop`, whose locked sections and unlocked reads are the steps of `sendingStep`. The
mutex of the following side is held by the main thread only, so taking it twice blocks that
thread for ever.
-/

namespace Paxosme
namespace PaxLearner

/-- `shall_Learn_delay_`. -/
def shallLearnDelay : Millisec := 3000
/-- `LEAD_FOLLOW_DIS`. -/
def leadFollowDis : UInt64 := 10

/-- The learner's part of a node, replaced. -/
def withLearner (node : Node) (learner : PaxLearner) : Node := { node with learner }

/-- Locking `mutex_follow_` on the main thread. -/
def lockFollow (node : Node) : Node :=
  if node.learner.mutexFollow then { node with blocked := true }
  else withLearner node { node.learner with mutexFollow := true }

/-- Releasing `mutex_follow_`; a blocked thread never gets there. -/
def unlockFollow (node : Node) : Node :=
  if node.blocked then node else withLearner node { node.learner with mutexFollow := false }

/-- `PaxLearner::LearnNew`. -/
def learnNew (node : Node) (value : LogValue) (instanceId : InstanceId)
    (proposalId : ProposalId) (proposer : NodeId) (writeState : Bool := false) : Node :=
  let node := withLearner node
    { node.learner with learnerState := { logValue := value, learned := true } }
  let node := node.record (.learnNew value instanceId proposalId proposer)
  if writeState then
    node.writeState { proposerId := proposer, instanceId, acceptedProposalId := proposalId,
                      acceptedNodeId := proposer, acceptedValue := value }
  else node

/-- `PaxLearner::LearnFromSelf`. -/
def learnFromSelf (node : Node) (message : PaxMessage) : Node :=
  if message.instanceId ≠ node.instanceId then node
  else if message.proposingNodeId ≠ node.getNodeId then node
  else
    let proposal := node.getAcceptedProposal
    if proposal.proposalId = proposalDummy ∨ message.proposalId ≠ proposal.proposalId then node
    else if proposal.nodeId ≠ node.getNodeId then node
    else learnNew node node.getAccepted message.instanceId proposal.proposalId proposal.nodeId

/-- `PaxLearner::LearnFromOthers`. -/
def learnFromOthers (node : Node) (message : PaxMessage) : Node :=
  let node := node.publish .shallILearn .shallLearn shallLearnDelay
  if message.instanceId ≠ node.instanceId then node
  else learnNew node message.chosenValue message.instanceId message.proposalId
    message.proposingNodeId true

/-- `PaxLearner::TellOthers`. -/
def tellOthers (node : Node) (proposalId : ProposalId) (proposer : NodeId)
    (logValue : LogValue) : Node :=
  node.broadCastMessage { PaxMessage.new node.getNodeId .valueChosenBroadcast with
    instanceId := node.instanceId
    proposalId := proposalId
    proposingNodeId := proposer
    chosenValue := logValue }

/-- `PaxLearner::HandleSenderPublish`. -/
def handleSenderPublish (node : Node) (message : PaxMessage) : Node :=
  let node := learnFromSelf node message
  tellOthers node message.proposalId node.getNodeId message.learnedValue

/-- `PaxLearner::HandleOthersPublish`. -/
def handleOthersPublish (node : Node) (message : PaxMessage) : Node :=
  if message.instanceId ≠ node.instanceId then node
  else if message.proposingNodeId ≠ node.getNodeId then node
  else
    let proposal := node.getAcceptedProposal
    if proposal.proposalId = proposalDummy ∨ message.proposalId ≠ proposal.proposalId then node
    else learnFromOthers node message

/-- `PaxLearner::SetPossibleHigherInstanceId`. -/
def setPossibleHigherInstanceId (node : Node) (instanceId : InstanceId) : Node :=
  if instanceId ≤ node.learner.highestKnownInstanceId then node
  else withLearner node { node.learner with highestKnownInstanceId := instanceId }

/-- `PaxLearner::TellInstanceId`. -/
def tellInstanceId (node : Node) (instanceId : InstanceId) (nodeId : NodeId) : Node :=
  node.sendMessage { PaxMessage.new node.getNodeId .tellInstanceId with
    instanceId := instanceId
    leaderInstanceId := node.instanceId } nodeId

/-- `PaxLearner::SendLearnedValue`. The sender field of the message is the receiver. -/
def sendLearnedValue (node : Node) (instanceId : InstanceId) (toNodeId : NodeId)
    (sync : Bool) : Node :=
  let paxosState := node.readState instanceId
  let messageType := if sync then MessageType.learnerValueSync else .learnerValueSend
  node.sendMessage { PaxMessage.new toNodeId messageType with
    instanceId := instanceId
    chosenValue := paxosState.acceptedValue
    proposalId := paxosState.acceptedProposalId
    proposingNodeId := paxosState.proposerId } toNodeId

/-- `PaxLearner::HandleShallILearn`. -/
def handleShallILearn (node : Node) (message : PaxMessage) : Node :=
  let node := setPossibleHigherInstanceId node message.instanceId
  if message.instanceId + 1 ≠ node.instanceId then
    tellInstanceId node message.instanceId message.sender
  else if message.instanceId + 1 = node.instanceId then
    sendLearnedValue node message.instanceId message.sender false
  else node

/-- `PaxLearner::MakeSenderReady`. -/
def makeSenderReady (node : Node) (receiver : NodeId) (followerInstanceId : InstanceId) : Node :=
  if node.learner.jobStatus ≠ .kStale then node
  else withLearner node { node.learner with
    jobStatus := .kPrepared
    receiver := receiver
    beginInstanceId := followerInstanceId }

/-- `PaxLearner::HandleConfirmLearn`. -/
def handleConfirmLearn (node : Node) (message : PaxMessage) : Node :=
  makeSenderReady node message.sender message.instanceId

/-- `PaxLearner::HandleValueAck`. -/
def handleValueAck (node : Node) (message : PaxMessage) : Node :=
  if node.learner.jobStatus ≠ .kSending ∨ node.learner.receiver ≠ message.sender then node
  else if node.learner.ackSend < message.instanceId then
    withLearner node { node.learner with ackSend := message.instanceId }
  else node

/-- `PaxLearner::ClearSendingState`. -/
def clearSendingState (node : Node) : Node :=
  withLearner node { node.learner with
    jobStatus := .kStale
    beginInstanceId := instanceDummy
    receiver := nodeDummy
    ackSend := instanceDummy }

/-- `PaxLearner::ConfirmLearn`. The message it builds is dropped at the end of its scope. -/
def confirmLearn (node : Node) (_nodeId : NodeId) : Node :=
  let node := lockFollow node
  if node.blocked then node
  else unlockFollow (withLearner node { node.learner with isLearning := true })

/-- `PaxLearner::HandleTellNewInstanceId`. It calls `ConfirmLearn` while it holds the mutex
that `ConfirmLearn` locks. -/
def handleTellNewInstanceId (node : Node) (message : PaxMessage) : Node :=
  let node := setPossibleHigherInstanceId node message.leaderInstanceId
  if message.instanceId ≠ node.instanceId then node
  else if message.leaderInstanceId < node.instanceId then node
  else
    let node := lockFollow node
    let node := if !node.learner.isLearning then confirmLearn node message.sender else node
    unlockFollow node

/-- `PaxLearner::AckLearnValue`. -/
def ackLearnValue (node : Node) (nodeId : NodeId) : Node :=
  node.sendMessage { PaxMessage.new node.getNodeId .syncValueAck with
    instanceId := node.instanceId } nodeId

/-- `PaxLearner::HandleSyncValue`. -/
def handleSyncValue (node : Node) (message : PaxMessage) : Node :=
  ackLearnValue (learnFromOthers node message) message.sender

/-- `PaxLearner::ShallLearn`. -/
def shallLearn (node : Node) : Node :=
  let node := node.publish .shallILearn .shallLearn shallLearnDelay
  let node := lockFollow node
  if node.blocked then node
  else
    let node := withLearner node { node.learner with isLearning := false }
    let node := node.broadCastMessage { PaxMessage.new node.getNodeId .shallILearn with
      instanceId := node.instanceId }
    unlockFollow node

/-- `PaxLearner::AnymoreToLearn`. -/
def anymoreToLearn (node : Node) : Bool :=
  node.instanceId + 1 < node.learner.highestKnownInstanceId

/-- `PaxLearner::NewInstance`. -/
def newInstance (node : Node) : Node :=
  withLearner node { node.learner with learnerState := {} }

/-- One step of the sending thread in `PaxLearner::SendingLoop`. The flag says whether the
stop watch of `SendLearnedValues` has run out when the waiting loop reads it. -/
def sendingStep (node : Node) (tooSlow : Bool) : Node :=
  let at' (node : Node) (sendingPoint : SendingPoint) : Node :=
    withLearner node { node.learner with sendingPoint }
  match node.learner.sendingPoint with
  | .waitForReady =>
    if node.learner.jobStatus = .kPrepared then
      at' (withLearner node { node.learner with jobStatus := .kSending }) .call
    else node
  | .call => at' node (.matchReceiver node.learner.beginInstanceId node.learner.receiver)
  | .matchReceiver beginInstanceId receiver =>
    if node.learner.receiver ≠ receiver then at' node .clear
    else at' node (.loopHead beginInstanceId receiver)
  | .loopHead toSend receiver =>
    if toSend < node.instanceId then
      at' (sendLearnedValue node toSend receiver true) (.awaitAck toSend (toSend + 1) receiver)
    else at' node .clear
  | .awaitAck lastSend toSend receiver =>
    if leadFollowDis < lastSend - node.learner.ackSend then
      if tooSlow then at' node .clear else node
    else at' node (.loopHead toSend receiver)
  | .clear => at' (clearSendingState node) .waitForReady

/-- `PaxLearner::HandleMessage`. The case of a chosen value falls through to the next. -/
def handleMessage (node : Node) (message : PaxMessage) : Node :=
  match message.messageType with
  | .valueChosen => handleOthersPublish (handleSenderPublish node message) message
  | .learnerValueSend => handleOthersPublish node message
  | .valueChosenBroadcast => handleOthersPublish node message
  | .shallILearn => handleShallILearn node message
  | .confirmLearn => handleConfirmLearn node message
  | .learnerValueSync => handleSyncValue node message
  | .syncValueAck => handleValueAck node message
  | .tellInstanceId => handleTellNewInstanceId node message
  | _ => node

/-- The record that `PaxLearner::LearnFromOthers` persists. -/
def learnedEntry (message : PaxMessage) : PaxosLogEntry :=
  { proposerId := message.proposingNodeId, instanceId := message.instanceId,
    acceptedProposalId := message.proposalId, acceptedNodeId := message.proposingNodeId,
    acceptedValue := message.chosenValue }

/-- The guards of `PaxLearner::HandleOthersPublish`: the current instance, the node's own id as
the proposer, and the number that the acceptor stores. -/
def PassesPublish (node : Node) (message : PaxMessage) : Prop :=
  message.instanceId = node.instanceId ∧ message.proposingNodeId = node.getNodeId ∧
    node.acceptor.acceptedProposalId ≠ proposalDummy ∧
    message.proposalId = node.acceptor.acceptedProposalId

instance instDecidablePassesPublish (node : Node) (message : PaxMessage) :
    Decidable (PassesPublish node message) :=
  inferInstanceAs (Decidable (_ ∧ _ ∧ _ ∧ _))

/-- A value learned from others is kept and persisted when it is of the current instance. -/
theorem learnFromOthers_current (node : Node) (message : PaxMessage)
    (current : message.instanceId = node.instanceId) :
    learnFromOthers node message =
      { node with
        learner := { node.learner with
          learnerState := { logValue := message.chosenValue, learned := true } }
        storage := node.storage.writeLog (learnedEntry message)
        calls := node.calls ++ [.addEvent .shallILearn .shallLearn shallLearnDelay,
          .learnNew message.chosenValue message.instanceId message.proposalId
            message.proposingNodeId,
          .writeLog (learnedEntry message)] } := by
  have same : message.instanceId =
      (node.publish .shallILearn .shallLearn shallLearnDelay).instanceId := current
  rw [learnFromOthers, if_neg (not_not.mpr same)]
  simp [learnNew, withLearner, Node.publish, Node.record, Node.writeState, learnedEntry]

/-- A value of another instance only arms the timer again. -/
theorem learnFromOthers_outdated (node : Node) (message : PaxMessage)
    (outdated : message.instanceId ≠ node.instanceId) :
    learnFromOthers node message = node.publish .shallILearn .shallLearn shallLearnDelay :=
  if_pos outdated

/-- A published value that passes the guards is learned from others. -/
theorem handleOthersPublish_passed (node : Node) (message : PaxMessage)
    (passes : PassesPublish node message) :
    handleOthersPublish node message = learnFromOthers node message := by
  obtain ⟨current, proposer, accepted, number⟩ := passes
  have mismatch : ¬ (node.acceptor.acceptedProposalId = proposalDummy ∨
      message.proposalId ≠ node.acceptor.acceptedProposalId) := by
    rintro (unset | other)
    · exact accepted unset
    · exact other number
  rw [handleOthersPublish, if_neg (not_not.mpr current), if_neg (not_not.mpr proposer)]
  exact if_neg mismatch

/-- A published value that a guard stops changes nothing. -/
theorem handleOthersPublish_stopped (node : Node) (message : PaxMessage)
    (stopped : ¬ PassesPublish node message) : handleOthersPublish node message = node := by
  unfold handleOthersPublish
  by_cases current : message.instanceId = node.instanceId
  · by_cases proposer : message.proposingNodeId = node.getNodeId
    · rw [if_neg (not_not.mpr current), if_neg (not_not.mpr proposer)]
      refine if_pos ?_
      by_contra accepted
      obtain ⟨set, number⟩ := not_or.mp accepted
      exact stopped ⟨current, proposer, set, not_not.mp number⟩
    · rw [if_pos proposer, ite_self]
  · rw [if_pos current]

/-- The guards of `PaxLearner::LearnFromSelf`: those of a published value, and the node's own id
as the proposer that the acceptor stores. -/
def PassesSelf (node : Node) (message : PaxMessage) : Prop :=
  PassesPublish node message ∧ node.acceptor.acceptedProposer = node.getNodeId

instance instDecidablePassesSelf (node : Node) (message : PaxMessage) :
    Decidable (PassesSelf node message) :=
  inferInstanceAs (Decidable (_ ∧ _))

/-- A chosen value that passes the guards is learned as the acceptor holds it, and not
persisted. -/
theorem learnFromSelf_passed (node : Node) (message : PaxMessage)
    (passes : PassesSelf node message) :
    learnFromSelf node message =
      { node with
        learner := { node.learner with
          learnerState := { logValue := node.acceptor.acceptedValue, learned := true } }
        calls := node.calls ++ [.learnNew node.acceptor.acceptedValue message.instanceId
          node.acceptor.acceptedProposalId node.acceptor.acceptedProposer] } := by
  obtain ⟨⟨current, proposer, accepted, number⟩, own⟩ := passes
  have mismatch : ¬ (node.acceptor.acceptedProposalId = proposalDummy ∨
      message.proposalId ≠ node.acceptor.acceptedProposalId) := by
    rintro (unset | other)
    · exact accepted unset
    · exact other number
  rw [learnFromSelf, if_neg (not_not.mpr current), if_neg (not_not.mpr proposer)]
  exact (if_neg mismatch).trans (if_neg (not_not.mpr own))

/-- A chosen value that a guard stops changes nothing. -/
theorem learnFromSelf_stopped (node : Node) (message : PaxMessage)
    (stopped : ¬ PassesSelf node message) : learnFromSelf node message = node := by
  unfold learnFromSelf
  by_cases current : message.instanceId = node.instanceId
  · by_cases proposer : message.proposingNodeId = node.getNodeId
    · rw [if_neg (not_not.mpr current), if_neg (not_not.mpr proposer)]
      by_cases mismatch : node.acceptor.acceptedProposalId = proposalDummy ∨
          message.proposalId ≠ node.acceptor.acceptedProposalId
      · exact if_pos mismatch
      · obtain ⟨accepted, number⟩ := not_or.mp mismatch
        refine (if_neg mismatch).trans (if_pos fun own => ?_)
        exact stopped ⟨⟨current, proposer, accepted, not_not.mp number⟩, own⟩
    · rw [if_pos proposer, ite_self]
  · rw [if_pos current]

/-- The question that `PaxLearner::ShallLearn` broadcasts. -/
def shallILearnMessage (node : Node) : PaxMessage :=
  { PaxMessage.new node.getNodeId .shallILearn with instanceId := node.instanceId }

/-- Asking the others arms the timer, marks the learner as not learning and broadcasts the
question. -/
theorem shallLearn_free (node : Node) (free : node.blocked = false)
    (open' : node.learner.mutexFollow = false) :
    shallLearn node =
      { node with
        learner := { node.learner with isLearning := false }
        calls := node.calls ++ [.addEvent .shallILearn .shallLearn shallLearnDelay,
          .broadcast (shallILearnMessage node)] } := by
  simp [shallLearn, lockFollow, unlockFollow, withLearner, Node.publish, Node.record,
    Node.broadCastMessage, Node.getNodeId, shallILearnMessage, free, open']

/-- With the mutex taken, asking blocks the thread. -/
theorem shallLearn_held (node : Node) (held : node.learner.mutexFollow = true) :
    shallLearn node =
      { node with
        blocked := true
        calls := node.calls ++ [.addEvent .shallILearn .shallLearn shallLearnDelay] } := by
  simp [shallLearn, lockFollow, Node.publish, Node.record, held]

/-- The answer of `PaxLearner::HandleShallILearn`: the record of the instance to a learner that
is just behind, the own instance to every other. -/
def shallILearnAnswer (node : Node) (message : PaxMessage) : PaxMessage :=
  if message.instanceId + 1 = node.instanceId then
    { PaxMessage.new message.sender .learnerValueSend with
      instanceId := message.instanceId
      chosenValue := (node.readState message.instanceId).acceptedValue
      proposalId := (node.readState message.instanceId).acceptedProposalId
      proposingNodeId := (node.readState message.instanceId).proposerId }
  else
    { PaxMessage.new node.getNodeId .tellInstanceId with
      instanceId := message.instanceId
      leaderInstanceId := node.instanceId }

/-- A learner that is just behind is sent the record. -/
theorem shallILearnAnswer_behind (node : Node) (message : PaxMessage)
    (behind : message.instanceId + 1 = node.instanceId) :
    shallILearnAnswer node message =
      { PaxMessage.new message.sender .learnerValueSend with
        instanceId := message.instanceId
        chosenValue := (node.readState message.instanceId).acceptedValue
        proposalId := (node.readState message.instanceId).acceptedProposalId
        proposingNodeId := (node.readState message.instanceId).proposerId } :=
  if_pos behind

/-- Every other learner is told the own instance. -/
theorem shallILearnAnswer_other (node : Node) (message : PaxMessage)
    (other : message.instanceId + 1 ≠ node.instanceId) :
    shallILearnAnswer node message =
      { PaxMessage.new node.getNodeId .tellInstanceId with
        instanceId := message.instanceId
        leaderInstanceId := node.instanceId } :=
  if_neg other

/-- Noting an instance changes the highest known one at most. -/
theorem setPossibleHigherInstanceId_eq (node : Node) (instanceId : InstanceId) :
    ∃ highest, setPossibleHigherInstanceId node instanceId =
      withLearner node { node.learner with highestKnownInstanceId := highest } := by
  unfold setPossibleHigherInstanceId
  split
  · exact ⟨node.learner.highestKnownInstanceId, rfl⟩
  · exact ⟨instanceId, rfl⟩

/-- A question is noted and answered. -/
theorem handleShallILearn_eq (node : Node) (message : PaxMessage) :
    ∃ highest, handleShallILearn node message =
      { node with
        learner := { node.learner with highestKnownInstanceId := highest }
        calls := node.calls ++ [.send message.sender (shallILearnAnswer node message)] } := by
  obtain ⟨highest, noted⟩ := setPossibleHigherInstanceId_eq node message.instanceId
  refine ⟨highest, ?_⟩
  by_cases behind : message.instanceId + 1 = node.instanceId
  · simp [handleShallILearn, noted, behind, sendLearnedValue, shallILearnAnswer, withLearner,
      Node.sendMessage, Node.record, Node.readState]
  · simp [handleShallILearn, noted, behind, tellInstanceId, shallILearnAnswer, withLearner,
      Node.sendMessage, Node.record, Node.getNodeId]

/-- A node that is not learning is told of an instance that is not below its own. -/
def LocksOut (node : Node) (message : PaxMessage) : Prop :=
  message.instanceId = node.instanceId ∧ node.instanceId ≤ message.leaderInstanceId ∧
    node.learner.isLearning = false

instance instDecidableLocksOut (node : Node) (message : PaxMessage) :
    Decidable (LocksOut node message) :=
  inferInstanceAs (Decidable (_ ∧ _ ∧ _))

/-- **The follower locks itself out.** It takes its mutex twice and sends nothing. -/
theorem handleTellNewInstanceId_locked (node : Node) (message : PaxMessage)
    (locks : LocksOut node message) (open' : node.learner.mutexFollow = false) :
    ∃ highest, handleTellNewInstanceId node message =
      { node with
        learner := { node.learner with highestKnownInstanceId := highest, mutexFollow := true }
        blocked := true } := by
  obtain ⟨current, ahead, idle⟩ := locks
  obtain ⟨highest, noted⟩ := setPossibleHigherInstanceId_eq node message.leaderInstanceId
  have notBelow : ¬ message.leaderInstanceId < node.instanceId := not_lt.mpr ahead
  refine ⟨highest, ?_⟩
  simp [handleTellNewInstanceId, noted, current, notBelow, withLearner, lockFollow, confirmLearn,
    unlockFollow, open', idle]

/-- In every other case the instance is noted at most. -/
theorem handleTellNewInstanceId_passed (node : Node) (message : PaxMessage)
    (passes : ¬ LocksOut node message) (open' : node.learner.mutexFollow = false)
    (free : node.blocked = false) :
    ∃ highest, handleTellNewInstanceId node message =
      withLearner node { node.learner with highestKnownInstanceId := highest } := by
  obtain ⟨highest, noted⟩ := setPossibleHigherInstanceId_eq node message.leaderInstanceId
  refine ⟨highest, ?_⟩
  by_cases current : message.instanceId = node.instanceId
  · by_cases below : message.leaderInstanceId < node.instanceId
    · simp [handleTellNewInstanceId, noted, current, below, withLearner]
    · have learning : node.learner.isLearning = true := by
        by_contra idle
        exact passes ⟨current, not_lt.mp below, Bool.not_eq_true _ ▸ idle⟩
      simp [handleTellNewInstanceId, noted, current, below, withLearner, lockFollow,
        unlockFollow, open', free, learning]
  · simp [handleTellNewInstanceId, noted, current, withLearner]

/-- What the learner does not own: the options, the instance, and the states of the proposer
and of the acceptor. -/
def besides (node : Node) : PaxosOptions × InstanceId × PaxProposer × AcceptorState :=
  (node.options, node.instanceId, node.proposer, node.acceptor)

/-- The guards of a published value read nothing that the learner owns. -/
theorem passesPublish_of_besides {node other : Node} {message : PaxMessage}
    (passes : PassesPublish other message) (same : besides node = besides other) :
    PassesPublish node message := by
  simp only [besides, Prod.mk.injEq] at same
  rw [PassesPublish, Node.getNodeId, same.1, same.2.1, same.2.2.2]
  exact passes

section Frame

variable (node : Node)

@[simp] theorem besides_withLearner (learner : PaxLearner) :
    besides (withLearner node learner) = besides node := rfl

@[simp] theorem besides_record (call : Call) : besides (node.record call) = besides node := rfl

@[simp] theorem besides_blocked (blocked : Bool) :
    besides { node with blocked } = besides node := rfl

@[simp] theorem besides_writeState (entry : PaxosLogEntry) :
    besides (node.writeState entry) = besides node := rfl

@[simp] theorem besides_lockFollow : besides (lockFollow node) = besides node := by
  unfold lockFollow
  split
  · rfl
  · rfl

@[simp] theorem besides_unlockFollow : besides (unlockFollow node) = besides node := by
  unfold unlockFollow
  split
  · rfl
  · rfl

@[simp] theorem besides_learnNew (value : LogValue) (instanceId : InstanceId)
    (proposalId : ProposalId) (proposer : NodeId) (writeState : Bool) :
    besides (learnNew node value instanceId proposalId proposer writeState) =
      besides node := by
  unfold learnNew
  split
  · rfl
  · rfl

@[simp] theorem besides_learnFromSelf (message : PaxMessage) :
    besides (learnFromSelf node message) = besides node := by
  simp only [learnFromSelf]
  repeat' split
  all_goals simp

@[simp] theorem besides_learnFromOthers (message : PaxMessage) :
    besides (learnFromOthers node message) = besides node := by
  simp only [learnFromOthers]
  split
  · rfl
  · simp [Node.publish]

@[simp] theorem besides_handleSenderPublish (message : PaxMessage) :
    besides (handleSenderPublish node message) = besides node := by
  simp [handleSenderPublish, tellOthers, Node.broadCastMessage]

@[simp] theorem besides_handleOthersPublish (message : PaxMessage) :
    besides (handleOthersPublish node message) = besides node := by
  simp only [handleOthersPublish]
  repeat' split
  all_goals simp

@[simp] theorem besides_setPossibleHigherInstanceId (instanceId : InstanceId) :
    besides (setPossibleHigherInstanceId node instanceId) = besides node := by
  unfold setPossibleHigherInstanceId
  split
  · rfl
  · rfl

@[simp] theorem besides_confirmLearn (nodeId : NodeId) :
    besides (confirmLearn node nodeId) = besides node := by
  simp only [confirmLearn]
  split
  · simp
  · simp

/-- No handler of the learner touches the other players. -/
theorem besides_handleMessage (message : PaxMessage) :
    besides (handleMessage node message) = besides node := by
  unfold handleMessage
  cases message.messageType with
  | shallILearn =>
    simp only [handleShallILearn]
    split
    · simp [tellInstanceId, Node.sendMessage]
    · split
      · simp [sendLearnedValue, Node.sendMessage]
      · simp
  | confirmLearn =>
    simp only [handleConfirmLearn, makeSenderReady]
    split
    · rfl
    · rfl
  | syncValueAck =>
    simp only [handleValueAck]
    repeat' split
    all_goals rfl
  | learnerValueSync => simp [handleSyncValue, ackLearnValue, Node.sendMessage]
  | tellInstanceId =>
    simp only [handleTellNewInstanceId]
    repeat' split
    all_goals simp
  | _ => simp

end Frame

section SendingThread

variable (node : Node) (tooSlow : Bool)

/-- A step of the sending thread sends the next value, or nothing. -/
theorem sendingStep_calls :
    (sendingStep node tooSlow).calls = node.calls ∨
      ∃ toSend receiver message, node.learner.sendingPoint = .loopHead toSend receiver ∧
        toSend < node.instanceId ∧ message.messageType = .learnerValueSync ∧
        message.instanceId = toSend ∧
        (sendingStep node tooSlow).calls = node.calls ++ [.send receiver message] ∧
        (sendingStep node tooSlow).learner =
          { node.learner with sendingPoint := .awaitAck toSend (toSend + 1) receiver } := by
  unfold sendingStep
  cases point : node.learner.sendingPoint with
  | waitForReady =>
    simp only
    split
    · exact .inl rfl
    · exact .inl rfl
  | call => exact .inl rfl
  | matchReceiver beginInstanceId receiver =>
    simp only
    split
    · exact .inl rfl
    · exact .inl rfl
  | loopHead toSend receiver =>
    by_cases left : toSend < node.instanceId
    · simp only [left, if_true]
      exact .inr ⟨toSend, receiver, _, rfl, left, rfl, rfl, rfl, rfl⟩
    · simp only [left, if_false]
      exact .inl rfl
  | awaitAck lastSend toSend receiver =>
    simp only
    split
    · split
      · exact .inl rfl
      · exact .inl rfl
    · exact .inl rfl
  | clear => exact .inl rfl

/-- A sending thread without a job waits on. -/
theorem sendingStep_idle (stale : node.learner.jobStatus = .kStale)
    (waiting : node.learner.sendingPoint = .waitForReady) : sendingStep node tooSlow = node := by
  simp [sendingStep, waiting, stale]

/-- The sending thread does not touch the other players. -/
theorem besides_sendingStep : besides (sendingStep node tooSlow) = besides node := by
  unfold sendingStep
  cases node.learner.sendingPoint with
  | call | clear => rfl
  | _ =>
    simp only
    repeat' split
    all_goals rfl

end SendingThread

/-- A step of the learner that learns nothing: messages are sent, and nothing changes of what
`LearnNew` writes and of what the learner does not own. -/
structure LearnsNothing (before after : Node) : Prop where
  /-- What the learner does not own is as before. -/
  besides : besides after = besides before
  /-- The log is as before. -/
  storage : after.storage = before.storage
  /-- The learned value is as before. -/
  learnerState : after.learner.learnerState = before.learner.learnerState
  /-- The calls are sends. -/
  calls : ∃ sent, after.calls = before.calls ++ sent ∧
    ∀ call ∈ sent, ∃ nodeId message, call = .send nodeId message

/-- Doing nothing learns nothing. -/
theorem learnsNothing_refl (node : Node) : LearnsNothing node node :=
  ⟨rfl, rfl, rfl, [], (List.append_nil _).symm, by simp⟩

/-- Two steps that learn nothing make one. -/
theorem LearnsNothing.trans {first second third : Node} (before : LearnsNothing first second)
    (after : LearnsNothing second third) : LearnsNothing first third := by
  obtain ⟨sent, appended, sends⟩ := before.calls
  obtain ⟨sent', appended', sends'⟩ := after.calls
  refine ⟨after.besides.trans before.besides, after.storage.trans before.storage,
    after.learnerState.trans before.learnerState, sent ++ sent', ?_, ?_⟩
  · rw [appended', appended, List.append_assoc]
  · intro call member
    rcases List.mem_append.mp member with early | late
    · exact sends call early
    · exact sends' call late

section LearnsNothing

variable (node : Node)

/-- Members beside the learned value may change. -/
theorem learnsNothing_withLearner (learner : PaxLearner)
    (same : learner.learnerState = node.learner.learnerState) :
    LearnsNothing node (withLearner node learner) :=
  ⟨rfl, rfl, same, [], (List.append_nil _).symm, by simp⟩

/-- A message may be sent. -/
theorem learnsNothing_sendMessage (message : PaxMessage) (nodeId : NodeId) :
    LearnsNothing node (node.sendMessage message nodeId) :=
  ⟨rfl, rfl, rfl, _, rfl, by simp⟩

/-- Locking the mutex learns nothing. -/
theorem learnsNothing_lockFollow : LearnsNothing node (lockFollow node) := by
  unfold lockFollow
  split
  · exact ⟨rfl, rfl, rfl, [], (List.append_nil _).symm, by simp⟩
  · exact learnsNothing_withLearner node _ rfl

/-- Releasing the mutex learns nothing. -/
theorem learnsNothing_unlockFollow : LearnsNothing node (unlockFollow node) := by
  unfold unlockFollow
  split
  · exact learnsNothing_refl node
  · exact learnsNothing_withLearner node _ rfl

/-- `ConfirmLearn` learns nothing. -/
theorem learnsNothing_confirmLearn (nodeId : NodeId) :
    LearnsNothing node (confirmLearn node nodeId) := by
  have locked := learnsNothing_lockFollow node
  simp only [confirmLearn]
  split
  · exact locked
  · have marked := learnsNothing_withLearner (lockFollow node)
      { (lockFollow node).learner with isLearning := true } rfl
    exact (locked.trans marked).trans (learnsNothing_unlockFollow _)

/-- `SetPossibleHigherInstanceId` learns nothing. -/
theorem learnsNothing_setPossibleHigherInstanceId (instanceId : InstanceId) :
    LearnsNothing node (setPossibleHigherInstanceId node instanceId) := by
  unfold setPossibleHigherInstanceId
  split
  · exact learnsNothing_refl node
  · exact learnsNothing_withLearner node _ rfl

/-- `HandleShallILearn` learns nothing. -/
theorem learnsNothing_handleShallILearn (message : PaxMessage) :
    LearnsNothing node (handleShallILearn node message) := by
  have higher := learnsNothing_setPossibleHigherInstanceId node message.instanceId
  simp only [handleShallILearn]
  split
  · exact higher.trans (learnsNothing_sendMessage _ _ _)
  · split
    · exact higher.trans (learnsNothing_sendMessage _ _ _)
    · exact higher

/-- `HandleConfirmLearn` learns nothing. -/
theorem learnsNothing_handleConfirmLearn (message : PaxMessage) :
    LearnsNothing node (handleConfirmLearn node message) := by
  unfold handleConfirmLearn makeSenderReady
  split
  · exact learnsNothing_refl node
  · exact learnsNothing_withLearner node _ rfl

/-- `HandleValueAck` learns nothing. -/
theorem learnsNothing_handleValueAck (message : PaxMessage) :
    LearnsNothing node (handleValueAck node message) := by
  unfold handleValueAck
  split
  · exact learnsNothing_refl node
  · split
    · exact learnsNothing_withLearner node _ rfl
    · exact learnsNothing_refl node

/-- `HandleTellNewInstanceId` learns nothing. -/
theorem learnsNothing_handleTellNewInstanceId (message : PaxMessage) :
    LearnsNothing node (handleTellNewInstanceId node message) := by
  have higher := learnsNothing_setPossibleHigherInstanceId node message.leaderInstanceId
  simp only [handleTellNewInstanceId]
  split
  · exact higher
  · split
    · exact higher
    · have locked := higher.trans (learnsNothing_lockFollow _)
      split
      · exact (locked.trans (learnsNothing_confirmLearn _ _)).trans
          (learnsNothing_unlockFollow _)
      · exact locked.trans (learnsNothing_unlockFollow _)

/-- The message types whose handlers may learn a value. -/
def CarriesValue (message : PaxMessage) : Prop :=
  message.messageType = .valueChosen ∨ message.messageType = .learnerValueSend ∨
    message.messageType = .valueChosenBroadcast ∨ message.messageType = .learnerValueSync

instance instDecidableCarriesValue (message : PaxMessage) : Decidable (CarriesValue message) :=
  inferInstanceAs (Decidable (_ ∨ _ ∨ _ ∨ _))

/-- The handlers of all other types learn nothing. -/
theorem learnsNothing_handleMessage (message : PaxMessage) (bare : ¬ CarriesValue message) :
    LearnsNothing node (handleMessage node message) := by
  unfold handleMessage
  cases kind : message.messageType with
  | valueChosen => exact absurd (.inl kind) bare
  | learnerValueSend => exact absurd (.inr (.inl kind)) bare
  | valueChosenBroadcast => exact absurd (.inr (.inr (.inl kind))) bare
  | learnerValueSync => exact absurd (.inr (.inr (.inr kind))) bare
  | shallILearn => exact learnsNothing_handleShallILearn node message
  | confirmLearn => exact learnsNothing_handleConfirmLearn node message
  | syncValueAck => exact learnsNothing_handleValueAck node message
  | tellInstanceId => exact learnsNothing_handleTellNewInstanceId node message
  | _ => exact learnsNothing_refl node

end LearnsNothing

/-- A call that a handler of the learner makes. -/
def LearnerCall : Call → Prop
  | .broadcast message => message.messageType = .valueChosenBroadcast
  | .send _ _ | .addEvent _ _ _ | .writeLog _ | .learnNew _ _ _ _ => True
  | .removeEvent _ | .flush _ _ | .writeResult _ _ _ | .execute _ _ => False

/-- A call that learning a value makes. -/
def LearningCall : Call → Prop
  | .addEvent _ _ _ | .writeLog _ | .learnNew _ _ _ _ => True
  | _ => False

/-- Learning is one of the learner's tasks. -/
theorem LearningCall.learnerCall (call : Call) (learning : LearningCall call) :
    LearnerCall call := by
  cases call with
  | addEvent | writeLog | learnNew => trivial
  | _ => exact absurd learning id

section Calls

variable (node : Node) (message : PaxMessage)

/-- The calls of learning from others. -/
theorem learnFromOthers_adds : Node.Adds LearningCall node (learnFromOthers node message) := by
  by_cases current : message.instanceId = node.instanceId
  · rw [learnFromOthers_current node message current]
    exact ⟨_, rfl, by simp [LearningCall]⟩
  · rw [learnFromOthers_outdated node message current]
    exact Node.adds_record _ _ trivial

/-- The calls of learning from the own acceptor. -/
theorem learnFromSelf_adds : Node.Adds LearningCall node (learnFromSelf node message) := by
  by_cases passes : PassesSelf node message
  · rw [learnFromSelf_passed node message passes]
    exact ⟨_, rfl, by simp [LearningCall]⟩
  · rw [learnFromSelf_stopped node message passes]
    exact Node.adds_of_eq rfl

/-- The calls of handling a published value. -/
theorem handleOthersPublish_adds :
    Node.Adds LearningCall node (handleOthersPublish node message) := by
  by_cases passes : PassesPublish node message
  · rw [handleOthersPublish_passed node message passes]
    exact learnFromOthers_adds node message
  · rw [handleOthersPublish_stopped node message passes]
    exact Node.adds_of_eq rfl

/-- The calls of handling the node's own notification. -/
theorem handleSenderPublish_adds :
    Node.Adds LearnerCall node (handleSenderPublish node message) := by
  have self := (learnFromSelf_adds node message).mono LearningCall.learnerCall
  have told : Node.Adds LearnerCall (learnFromSelf node message)
      (handleSenderPublish node message) := Node.adds_record _ _ rfl
  exact self.trans told

/-- The calls of the learner's handler. -/
theorem handleMessage_adds : Node.Adds LearnerCall node (handleMessage node message) := by
  have published (before : Node) : Node.Adds LearnerCall before
      (handleOthersPublish before message) :=
    (handleOthersPublish_adds before message).mono LearningCall.learnerCall
  by_cases carries : CarriesValue message
  · rcases carries with chosen | sent | broadcast | sync
    · simp only [handleMessage, chosen]
      exact (handleSenderPublish_adds node message).trans (published _)
    · simp only [handleMessage, sent]
      exact published node
    · simp only [handleMessage, broadcast]
      exact published node
    · simp only [handleMessage, sync]
      have learned := (learnFromOthers_adds node message).mono LearningCall.learnerCall
      exact learned.trans (Node.adds_record _ _ trivial)
  · obtain ⟨sent, appended, sends⟩ := (learnsNothing_handleMessage node message carries).calls
    refine ⟨sent, appended, fun call member => ?_⟩
    obtain ⟨nodeId, other, rfl⟩ := sends call member
    trivial

end Calls

end PaxLearner
end Paxosme
