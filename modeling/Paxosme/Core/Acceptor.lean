import Paxosme.Core.Node

/-!
# The acceptor

The handlers of `PaxAcceptor` in `acceptor_pax.cpp`, and the equation of each handler that
the proofs use in place of its body. Neither handler reads the instance id of the message,
and `ReplyProposer` copies from a reply record in which the instance id and, outside a
refused prepare request, the promised node id keep their initial zero.
-/

namespace Paxosme
namespace PaxAcceptor

/-- `PaxAcceptor::IsHigherThanPromised`. -/
def isHigherThanPromised (node : Node) (proposer : NodeId) (proposalId : ProposalId) : Bool :=
  node.acceptor.promisedProposalId < proposalId ∨
    proposalId = node.acceptor.promisedProposalId ∧ node.acceptor.promisedNodeId < proposer

/-- The record that `PaxAcceptor::UpdatePromised` fills from the acceptor state. -/
def promisedEntry (instanceId : InstanceId) (state : AcceptorState) (proposer : NodeId)
    (proposalId : ProposalId) : PaxosLogEntry :=
  let entry : PaxosLogEntry :=
    { instanceId, promisedNodeId := proposer, promisedProposalId := proposalId,
      proposerId := proposer }
  if state.acceptedProposalId ≠ 0 then
    { entry with acceptedNodeId := proposer, acceptedProposalId := state.acceptedProposalId,
                 acceptedValue := state.acceptedValue }
  else entry

/-- `PaxAcceptor::UpdatePromised`. -/
def updatePromised (node : Node) (proposer : NodeId) (proposalId : ProposalId) : Node :=
  let node := { node with acceptor := node.acceptor.setPromisedProposal proposalId proposer }
  node.writeState (promisedEntry node.instanceId node.acceptor proposer proposalId)

/-- The message that `PaxAcceptor::ReplyProposer` builds from a reply record. -/
def replyMessage (node : Node) (reply : PaxAcceptorReplyMessage) (requestType : MessageType) :
    PaxMessage :=
  { PaxMessage.new node.getNodeId requestType with
    instanceId := reply.instanceId
    promisedNodeId := reply.promisedNodeId
    promisedProposalId := reply.promisedProposalId
    acceptedProposal := reply.acceptedId
    acceptedValue := reply.acceptedValue
    rejected := reply.isRejected }

/-- `PaxAcceptor::ReplyProposer`. -/
def replyProposer (node : Node) (reply : PaxAcceptorReplyMessage) (requestType : MessageType) :
    Node :=
  node.sendMessage (replyMessage node reply requestType) reply.proposerId

/-- `PaxAcceptor::HandlePropose`. -/
def handlePropose (node : Node) (message : PaxMessage) : Node :=
  let proposer := message.proposingNodeId
  let reply : PaxAcceptorReplyMessage := { proposerId := proposer }
  let proposalId := message.proposalId
  if isHigherThanPromised node proposer proposalId then
    let reply := { reply with isRejected := false }
    let acceptedProposalId := node.acceptor.acceptedProposalId
    -- the accepted pair is reported before the promise moves
    let reply := if acceptedProposalId ≠ proposalDummy then
        { reply with acceptedId := acceptedProposalId, acceptedValue := node.getAccepted }
      else reply
    replyProposer (updatePromised node proposer proposalId) reply .proposeAck
  else
    let reply := { reply with
      isRejected := true
      promisedProposalId := node.acceptor.promisedProposalId
      promisedNodeId := node.acceptor.promisedNodeId }
    replyProposer node reply .proposeAck

/-- `PaxAcceptor::HandleAccept`. A refusal reports the promised proposal id alone. -/
def handleAccept (node : Node) (message : PaxMessage) : Node :=
  let reply : PaxAcceptorReplyMessage := { proposerId := message.proposingNodeId }
  let proposalId := message.proposalId
  let proposer := message.proposingNodeId
  if isHigherThanPromised node proposer proposalId then
    let acceptor := node.acceptor.setPromisedProposal proposalId proposer
    let acceptor := acceptor.setAcceptedProposal proposalId proposer
    let acceptor := acceptor.setAcceptedValue message.proposedLogValue
    let node := updatePromised { node with acceptor } proposer proposalId
    replyProposer node { reply with isRejected := false } .acceptAck
  else
    let reply := { reply with
      isRejected := true
      promisedProposalId := node.acceptor.promisedProposalId }
    replyProposer node reply .acceptAck

/-- `PaxAcceptor::HandleMessage`. -/
def handleMessage (node : Node) (message : PaxMessage) : Node :=
  match message.messageType with
  | .proposeBroadcast => handlePropose node message
  | .acceptBroadcast => handleAccept node message
  | _ => node

/-- `PaxAcceptor::NewInstance`. -/
def newInstance (node : Node) : Node := { node with acceptor := node.acceptor.reset }

/-- The pair an acceptor has promised, under the order of its comparison. -/
def promisedPair (state : AcceptorState) : WordOrder.WordPair :=
  WordOrder.pair state.promisedProposalId state.promisedNodeId

/-- The pair of a request: its number, then its proposer. -/
def requestPair (message : PaxMessage) : WordOrder.WordPair :=
  WordOrder.pair message.proposalId message.proposingNodeId

/-- The comparison of the source is the lexicographic order of the two pairs. -/
theorem isHigherThanPromised_iff (node : Node) (message : PaxMessage) :
    isHigherThanPromised node message.proposingNodeId message.proposalId = true ↔
      promisedPair node.acceptor < requestPair message := by
  rw [promisedPair, requestPair, WordOrder.pair_lt_iff, isHigherThanPromised, decide_eq_true_iff,
    @eq_comm _ message.proposalId]

/-- The acceptor state that a granted request leaves. -/
def grantedState (state : AcceptorState) (message : PaxMessage) : AcceptorState :=
  match message.messageType with
  | .acceptBroadcast =>
    { promisedProposalId := message.proposalId, promisedNodeId := message.proposingNodeId,
      acceptedProposalId := message.proposingNodeId,
      acceptedProposer := message.proposingNodeId,
      acceptedValue := message.proposedLogValue }
  | _ => state.setPromisedProposal message.proposalId message.proposingNodeId

/-- The type of the reply to a request. -/
def ackType (message : PaxMessage) : MessageType :=
  match message.messageType with
  | .acceptBroadcast => .acceptAck
  | _ => .proposeAck

/-- The reply to a granted request: a prepare request reports the accepted proposal. -/
def grantedAck (node : Node) (message : PaxMessage) : PaxMessage :=
  let ack := PaxMessage.new node.getNodeId (ackType message)
  if message.messageType = .proposeBroadcast ∧
      node.acceptor.acceptedProposalId ≠ proposalDummy then
    { ack with acceptedProposal := node.acceptor.acceptedProposalId,
               acceptedValue := node.acceptor.acceptedValue }
  else ack

/-- A granting reply has the type of the request's acknowledgement. -/
theorem grantedAck_messageType (node : Node) (message : PaxMessage) :
    (grantedAck node message).messageType = ackType message := by
  simp only [grantedAck]
  split
  · rfl
  · rfl

/-- The reply to a refused request. -/
def refusedAck (node : Node) (message : PaxMessage) : PaxMessage :=
  { PaxMessage.new node.getNodeId (ackType message) with
    promisedProposalId := node.acceptor.promisedProposalId
    promisedNodeId := if message.messageType = .proposeBroadcast then
      node.acceptor.promisedNodeId else 0
    rejected := true }

/-- The message types that an acceptor handles. -/
def IsRequest (message : PaxMessage) : Prop :=
  message.messageType = .proposeBroadcast ∨ message.messageType = .acceptBroadcast

instance (message : PaxMessage) : Decidable (IsRequest message) :=
  inferInstanceAs (Decidable (_ ∨ _))

/-- The record written for a granted request. -/
def grantedEntry (node : Node) (message : PaxMessage) : PaxosLogEntry :=
  promisedEntry node.instanceId (grantedState node.acceptor message) message.proposingNodeId
    message.proposalId

/-- A request above the promise is granted: the state moves, the record is written and the
reply is sent, in that order. -/
theorem handleMessage_granted (node : Node) (message : PaxMessage) (request : IsRequest message)
    (above : promisedPair node.acceptor < requestPair message) :
    handleMessage node message =
      { node with
        acceptor := grantedState node.acceptor message
        storage := node.storage.writeLog (grantedEntry node message)
        calls := node.calls ++ [.writeLog (grantedEntry node message),
          .send message.proposingNodeId (grantedAck node message)] } := by
  rw [← isHigherThanPromised_iff] at above
  rcases request with propose | accept
  · simp only [handleMessage, propose, handlePropose, above, if_true]
    by_cases accepted : node.acceptor.acceptedProposalId = 0
    · simp [replyProposer, replyMessage, updatePromised, Node.writeState, Node.record,
        Node.sendMessage, Node.getNodeId, grantedState, grantedAck, grantedEntry, ackType, propose,
        accepted, PaxMessage.new]
    · simp [replyProposer, replyMessage, updatePromised, Node.writeState, Node.record,
        Node.sendMessage, Node.getNodeId, grantedState, grantedAck, grantedEntry, ackType, propose,
        accepted, PaxMessage.new, Node.getAccepted]
  · simp only [handleMessage, accept, handleAccept, above, if_true]
    simp [replyProposer, replyMessage, updatePromised, Node.writeState, Node.record,
      Node.sendMessage, Node.getNodeId, grantedState, grantedAck, grantedEntry, ackType, accept,
      PaxMessage.new, AcceptorState.setPromisedProposal, AcceptorState.setAcceptedProposal,
      AcceptorState.setAcceptedValue]

/-- A request that is not above the promise is refused: only the reply leaves a trace. -/
theorem handleMessage_refused (node : Node) (message : PaxMessage) (request : IsRequest message)
    (below : ¬ promisedPair node.acceptor < requestPair message) :
    handleMessage node message =
      { node with
        calls := node.calls ++ [.send message.proposingNodeId (refusedAck node message)] } := by
  rw [← isHigherThanPromised_iff, Bool.not_eq_true] at below
  rcases request with propose | accept
  · simp [handleMessage, propose, handlePropose, below, replyProposer, replyMessage, Node.record,
      Node.sendMessage, Node.getNodeId, refusedAck, ackType, PaxMessage.new]
  · simp [handleMessage, accept, handleAccept, below, replyProposer, replyMessage, Node.record,
      Node.sendMessage, Node.getNodeId, refusedAck, ackType, PaxMessage.new]

/-- Every other message is ignored. -/
theorem handleMessage_other (node : Node) (message : PaxMessage) (other : ¬ IsRequest message) :
    handleMessage node message = node := by
  unfold handleMessage
  split
  · rename_i propose
    exact absurd (.inl propose) other
  · rename_i accept
    exact absurd (.inr accept) other
  · rfl

/-- The acceptor's handler changes its own state, the log and the calls alone. -/
theorem handleMessage_frame (node : Node) (message : PaxMessage) :
    handleMessage node message =
      { node with
        acceptor := (handleMessage node message).acceptor
        storage := (handleMessage node message).storage
        calls := (handleMessage node message).calls } := by
  by_cases request : IsRequest message
  · by_cases above : promisedPair node.acceptor < requestPair message
    · rw [handleMessage_granted node message request above]
    · rw [handleMessage_refused node message request above]
  · rw [handleMessage_other node message request]

/-- A call that a handler of the acceptor makes. -/
def AcceptorCall : Call → Prop
  | .send _ _ | .writeLog _ => True
  | _ => False

/-- The calls of the acceptor's handler. -/
theorem handleMessage_adds (node : Node) (message : PaxMessage) :
    Node.Adds AcceptorCall node (handleMessage node message) := by
  by_cases request : IsRequest message
  · by_cases above : promisedPair node.acceptor < requestPair message
    · rw [handleMessage_granted node message request above]
      exact ⟨_, rfl, by simp [AcceptorCall]⟩
    · rw [handleMessage_refused node message request above]
      exact ⟨_, rfl, by simp [AcceptorCall]⟩
  · rw [handleMessage_other node message request]
    exact Node.adds_of_eq rfl

end PaxAcceptor
end Paxosme
