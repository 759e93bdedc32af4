import Paxosme.Core.Node

/-!
# The proposer

The member functions of `PaxProposer` in `proposer_pax.cpp`. Two calls of the source leave
the proposer and come back as parameters here: the value that `ProposalProv::Flush` hands to
`NewValue`, and `PaxController::HandleMessage`, which `HandleAcceptAck` re-enters through
`ProcessChosenValue`. The two acknowledgement handlers share one shape: three guards that
drop the message, a count, and a decision on the counted votes.
-/

namespace Paxosme
namespace PaxProposer

/-- `PROPOSE_TIMEOUT`. -/
def proposeTimeout : Millisec := 50
/-- `ACCEPT_TIMEOUT`. -/
def acceptTimeout : Millisec := 50

/-- `PaxProposer::GenerateMessage`. Both `SetProposingNodeId` calls of the source write the
proposing node; the proposal id of the message stays zero. -/
def generateMessage (node : Node) (messageType : MessageType) (proposalId : ProposalId) :
    PaxMessage :=
  let message := PaxMessage.new node.getNodeId messageType
  let message := { message with instanceId := node.instanceId }
  let message := { message with proposingNodeId := node.getNodeId }
  let message := { message with proposingNodeId := proposalId }
  { message with proposedLogValue := node.proposer.proposerState.logValue }

/-- The proposer's part of a node, replaced. -/
def withProposer (node : Node) (proposer : PaxProposer) : Node := { node with proposer }

/-- The state in which `PaxProposer::Propose` builds its message: a rejection since the last
reset draws a new number, and the counter starts again. -/
def startRound (proposer : PaxProposer) : PaxProposer :=
  { status := .kPropose
    proposerState := if proposer.proposalCounter.someoneReject then
        proposer.proposerState.newProposalId
      else proposer.proposerState
    proposalCounter := proposer.proposalCounter.reset }

/-- `PaxProposer::Propose`. -/
def propose (node : Node) : Node :=
  let node := withProposer node (startRound node.proposer)
  let message := generateMessage node .proposeBroadcast node.proposer.proposerState.myProposalId
  let node := node.publish .proposeTimeout (.proposeTimeoutCallback message.instanceId)
    proposeTimeout
  node.broadCastMessage message

/-- `PaxProposer::NewValue`, given what `ProposalProv::Flush` hands over and the timeout of a
new value. -/
def newValue (node : Node) (flushed : Option LogValue) (timeout : Millisec) : Node :=
  match flushed with
  | none => node
  | some value =>
    let node := node.record (.flush node.instanceId value)
    let state := node.proposer.proposerState
    let state := if state.logValue.isEmpty then state.setLogValue value else state
    let node := withProposer node { node.proposer with proposerState := state }
    let node := node.publish .newValueTimeout .newValueTimeoutCallback timeout
    propose node

/-- `PaxProposer::ProposeTimeoutCallback`. -/
def proposeTimeoutCallback (node : Node) (instanceId : InstanceId) : Node :=
  if instanceId ≠ node.instanceId then node else propose node

/-- `PaxProposer::TryUpdateProposerStateWithPrepareReply` — the state it leaves. The pair
compared is the number and the proposer of the round itself. -/
def tryUpdateProposerStateWithPrepareReply (state : ProposerState) (message : PaxMessage) :
    ProposerState :=
  (state.tryUpdateLogValue message.proposalId message.proposingNodeId message.acceptedValue).1

/-- The guards of an acknowledgement handler drop a message in another phase, for another
proposer or for another number. -/
def Discards (phase : ProposerStatus) (node : Node) (message : PaxMessage) : Prop :=
  node.proposer.status ≠ phase ∨ message.proposingNodeId ≠ node.getNodeId ∨
    message.proposalId ≠ node.proposer.proposerState.myProposalId

instance (phase : ProposerStatus) (node : Node) (message : PaxMessage) :
    Decidable (Discards phase node message) :=
  inferInstanceAs (Decidable (_ ∨ _ ∨ _))

/-- The counting part of `PaxProposer::HandleProposeAck`. The id counted is the node's own. -/
def countProposeAck (node : Node) (message : PaxMessage) : PaxProposer :=
  if !message.rejected then
    { node.proposer with
      proposerState :=
        tryUpdateProposerStateWithPrepareReply node.proposer.proposerState message
      proposalCounter := node.proposer.proposalCounter.addPromise node.getNodeId }
  else
    { node.proposer with
      proposerState := (node.proposer.proposerState.tryUpdateHighestProposalId
        message.promisedProposalId message.promisedNodeId).1
      proposalCounter := node.proposer.proposalCounter.addRejection node.getNodeId }

/-- `PaxProposer::HandleProposeAck`. A majority of promises calls `Propose` again. -/
def handleProposeAck (node : Node) (message : PaxMessage) : Node :=
  if node.proposer.status ≠ .kPropose then node
  else if message.proposingNodeId ≠ node.getNodeId then node
  else if message.proposalId ≠ node.proposer.proposerState.myProposalId then node
  else
    let node := withProposer node (countProposeAck node message)
    let counter := node.proposer.proposalCounter
    if counter.isMajorityPromised node.options then propose node
    else if counter.isMajorityRejected node.options || !counter.isStillPending node.options then
      node.publish .proposeTimeout (.proposeTimeoutCallback message.instanceId) proposeTimeout
    else node

/-- `PaxProposer::Accept`. No function of the source calls it. -/
def accept (node : Node) : Node :=
  let node := withProposer node { node.proposer with status := .kAccept }
  let message := generateMessage node .acceptBroadcast node.proposer.proposerState.myProposalId
  let node := withProposer node
    { node.proposer with proposalCounter := node.proposer.proposalCounter.reset }
  let node := node.broadCastMessage message
  node.publish .acceptTimeout (.proposeTimeoutCallback message.instanceId) acceptTimeout

/-- The counting part of `PaxProposer::HandleAcceptAck`. -/
def countAcceptAck (node : Node) (message : PaxMessage) : PaxProposer :=
  if !message.rejected then
    { node.proposer with
      proposalCounter := node.proposer.proposalCounter.addAccept node.getNodeId }
  else
    { node.proposer with
      proposerState := (node.proposer.proposerState.tryUpdateHighestProposalId
        message.promisedProposalId message.promisedNodeId).1
      proposalCounter := node.proposer.proposalCounter.addRejection node.getNodeId }

/-- The notification that `PaxProposer::HandleAcceptAck` builds from the last
acknowledgement. -/
def chosenMessage (node : Node) (message : PaxMessage) : PaxMessage :=
  { PaxMessage.new node.getNodeId .valueChosen with
    instanceId := message.instanceId
    proposalId := message.proposalId }

/-- `PaxProposer::HandleAcceptAck`. -/
def handleAcceptAck (processChosenValue : Node → PaxMessage → Node) (node : Node)
    (message : PaxMessage) : Node :=
  if node.proposer.status ≠ .kAccept then node
  else if message.proposingNodeId ≠ node.getNodeId then node
  else if message.proposalId ≠ node.proposer.proposerState.myProposalId then node
  else
    let node := withProposer node (countAcceptAck node message)
    let counter := node.proposer.proposalCounter
    if counter.isMajorityAccepted node.options then
      let node := withProposer node { node.proposer with status := .kMajorityAccepted }
      processChosenValue node (chosenMessage node message)
    else if counter.isMajorityRejected node.options || !counter.isStillPending node.options then
      node.publish .acceptTimeout (.proposeTimeoutCallback message.instanceId) acceptTimeout
    else node

/-- `PaxProposer::NewInstance`. -/
def newInstance (node : Node) : Node :=
  withProposer node
    { status := .kNone
      proposalCounter := node.proposer.proposalCounter.reset
      proposerState := node.proposer.proposerState.reset }

/-- `PaxProposer::InstanceDone`. -/
def instanceDone (node : Node) (instanceId : InstanceId) (logValue : LogValue) : Node :=
  let node := node.record (.writeResult logValue instanceId .valueAccepted)
  (node.withdraw .proposeTimeout).withdraw .acceptTimeout

/-- `PaxProposer::NewValueTimeoutCallback`. -/
def newValueTimeoutCallback (node : Node) : Node :=
  if node.proposer.status ≠ .kPropose ∧ node.proposer.status ≠ .kAccept then node
  else
    let node := (node.withdraw .proposeTimeout).withdraw .acceptTimeout
    let node := withProposer node { node.proposer with status := .kNone }
    node.record (.writeResult [] node.instanceId .valueTimeout)

/-- `PaxProposer::HandleMessage`. -/
def handleMessage (processChosenValue : Node → PaxMessage → Node) (node : Node)
    (message : PaxMessage) : Node :=
  match message.messageType with
  | .proposeAck => handleProposeAck node message
  | .acceptAck => handleAcceptAck processChosenValue node message
  | _ => node

/-- The prepare request of the round that `Propose` starts. -/
def prepareMessage (node : Node) : PaxMessage :=
  generateMessage (withProposer node (startRound node.proposer)) .proposeBroadcast
    (startRound node.proposer).proposerState.myProposalId

/-- `Propose` starts the round, arms its timer and broadcasts its prepare request. -/
theorem propose_eq (node : Node) :
    propose node =
      { node with
        proposer := startRound node.proposer
        calls := node.calls ++
          [.addEvent .proposeTimeout (.proposeTimeoutCallback node.instanceId) proposeTimeout,
            .broadcast (prepareMessage node)] } := by
  simp [propose, prepareMessage, withProposer, Node.publish, Node.broadCastMessage, Node.record,
    generateMessage]

/-- The accept request that `Accept` broadcasts. -/
def acceptMessage (node : Node) : PaxMessage :=
  generateMessage node .acceptBroadcast node.proposer.proposerState.myProposalId

/-- `Accept` enters its phase, clears the counter, broadcasts its request and arms its timer. -/
theorem accept_eq (node : Node) :
    accept node =
      { node with
        proposer := { node.proposer with status := .kAccept, proposalCounter := {} }
        calls := node.calls ++
          [.broadcast (acceptMessage node),
            .addEvent .acceptTimeout (.proposeTimeoutCallback node.instanceId)
              acceptTimeout] } := by
  simp [accept, acceptMessage, withProposer, Node.publish, Node.broadCastMessage, Node.record,
    generateMessage, Node.getNodeId, ProposalCounter.reset]

/-- A message that the guards pass is in the phase, for the proposer and of its number. -/
theorem not_discards_iff (phase : ProposerStatus) (node : Node) (message : PaxMessage) :
    ¬ Discards phase node message ↔
      node.proposer.status = phase ∧ message.proposingNodeId = node.getNodeId ∧
        message.proposalId = node.proposer.proposerState.myProposalId := by
  simp only [Discards, not_or, not_not]

/-- A discarded promise acknowledgement changes nothing. -/
theorem handleProposeAck_discarded (node : Node) (message : PaxMessage)
    (discarded : Discards .kPropose node message) : handleProposeAck node message = node := by
  unfold handleProposeAck
  rcases discarded with phase | proposer | number
  · rw [if_pos phase]
  · rw [if_pos proposer, ite_self]
  · rw [if_pos number, ite_self, ite_self]

/-- A discarded accept acknowledgement changes nothing. -/
theorem handleAcceptAck_discarded (processChosenValue : Node → PaxMessage → Node) (node : Node)
    (message : PaxMessage) (discarded : Discards .kAccept node message) :
    handleAcceptAck processChosenValue node message = node := by
  unfold handleAcceptAck
  rcases discarded with phase | proposer | number
  · rw [if_pos phase]
  · rw [if_pos proposer, ite_self]
  · rw [if_pos number, ite_self, ite_self]

/-- Whether counting a promise acknowledgement shows a majority of promises. -/
def ObservesMajority (node : Node) (message : PaxMessage) : Prop :=
  (countProposeAck node message).proposalCounter.isMajorityPromised node.options = true

instance (node : Node) (message : PaxMessage) : Decidable (ObservesMajority node message) :=
  inferInstanceAs (Decidable (_ = true))

/-- A majority is shown when the promises counted before, with the node's own id for a grant,
are one. -/
theorem observesMajority_iff (node : Node) (message : PaxMessage) :
    ObservesMajority node message ↔
      node.options.getMajorityCount ≤
        (if message.rejected then node.proposer.proposalCounter.promises
          else insert node.getNodeId node.proposer.proposalCounter.promises).card := by
  rw [ObservesMajority, ProposalCounter.isMajorityPromised, decide_eq_true_iff, countProposeAck]
  cases message.rejected with
  | false =>
    rw [if_pos (by decide), if_neg (by decide), ProposalCounter.addPromise]
    split
    · rename_i present
      rw [Finset.insert_eq_of_mem present]
    · rfl
  | true =>
    rw [if_neg (by decide), if_pos rfl, ProposalCounter.addRejection]
    split
    · rfl
    · rfl

/-- A counted promise acknowledgement that shows a majority starts the round again. -/
theorem handleProposeAck_majority (node : Node) (message : PaxMessage)
    (passes : ¬ Discards .kPropose node message) (majority : ObservesMajority node message) :
    handleProposeAck node message =
      propose (withProposer node (countProposeAck node message)) := by
  obtain ⟨phase, proposer, number⟩ := (not_discards_iff _ _ _).mp passes
  simp only [handleProposeAck, phase, proposer, number, ne_eq, not_true_eq_false, if_false]
  exact if_pos majority

/-- The timer armed after a count without a majority of grants: the round is tried again when
a majority rejected or `IsStillPending` denies. -/
def relaunch (counter : ProposalCounter) (options : PaxosOptions) (eventType : EventType)
    (delay : Millisec) (message : PaxMessage) : List Call :=
  if counter.isMajorityRejected options || !counter.isStillPending options then
    [.addEvent eventType (.proposeTimeoutCallback message.instanceId) delay]
  else []

/-- The decision to arm the timer, as the calls it adds. -/
theorem publish_relaunch (node : Node) (counter : ProposalCounter) (options : PaxosOptions)
    (eventType : EventType) (delay : Millisec) (message : PaxMessage) :
    (if counter.isMajorityRejected options || !counter.isStillPending options then
        node.publish eventType (.proposeTimeoutCallback message.instanceId) delay
      else node) =
      { node with calls := node.calls ++ relaunch counter options eventType delay message } := by
  unfold relaunch
  split
  · rfl
  · rw [List.append_nil]

/-- A counted promise acknowledgement short of a majority leaves the counted votes, and may
arm the timer of the round. -/
theorem handleProposeAck_counted (node : Node) (message : PaxMessage)
    (passes : ¬ Discards .kPropose node message) (short : ¬ ObservesMajority node message) :
    handleProposeAck node message =
      { node with
        proposer := countProposeAck node message
        calls := node.calls ++ relaunch (countProposeAck node message).proposalCounter
          node.options .proposeTimeout proposeTimeout message } := by
  obtain ⟨phase, proposer, number⟩ := (not_discards_iff _ _ _).mp passes
  simp only [handleProposeAck, phase, proposer, number, ne_eq, not_true_eq_false, if_false]
  exact (if_neg short).trans (publish_relaunch _ _ _ _ _ _)

/-- A counted accept acknowledgement that shows a majority hands the notification over. -/
theorem handleAcceptAck_majority (processChosenValue : Node → PaxMessage → Node) (node : Node)
    (message : PaxMessage) (passes : ¬ Discards .kAccept node message)
    (majority : (countAcceptAck node message).proposalCounter.isMajorityAccepted
      node.options = true) :
    handleAcceptAck processChosenValue node message =
      processChosenValue
        (withProposer node { countAcceptAck node message with status := .kMajorityAccepted })
        (chosenMessage node message) := by
  obtain ⟨phase, proposer, number⟩ := (not_discards_iff _ _ _).mp passes
  simp only [handleAcceptAck, phase, proposer, number, ne_eq, not_true_eq_false, if_false]
  exact if_pos majority

/-- A counted accept acknowledgement short of a majority leaves the counted votes, and may
arm the timer of the round. -/
theorem handleAcceptAck_counted (processChosenValue : Node → PaxMessage → Node) (node : Node)
    (message : PaxMessage) (passes : ¬ Discards .kAccept node message)
    (short : ¬ (countAcceptAck node message).proposalCounter.isMajorityAccepted
      node.options = true) :
    handleAcceptAck processChosenValue node message =
      { node with
        proposer := countAcceptAck node message
        calls := node.calls ++ relaunch (countAcceptAck node message).proposalCounter
          node.options .acceptTimeout acceptTimeout message } := by
  obtain ⟨phase, proposer, number⟩ := (not_discards_iff _ _ _).mp passes
  simp only [handleAcceptAck, phase, proposer, number, ne_eq, not_true_eq_false, if_false]
  exact (if_neg short).trans (publish_relaunch _ _ _ _ _ _)

end PaxProposer
end Paxosme
