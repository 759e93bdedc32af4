import Paxosme.Core.Controller
import Paxosme.Core.Network

/-!
# What goes over the wire

The handlers of a message type read some of the fields of a message. None of them reaches a
request: `PODMessage` returns an empty record, whose type no case of `GrpcClient::Send` names, so
no message of any player is ever sent. Four of the types have no case in that switch either.
-/

namespace Paxosme
namespace Wire

/-- The request message that stands for a message type. -/
def requestType : MessageType → Option RequestType
  | .proposeBroadcast => some .propose
  | .acceptBroadcast => some .accept
  | .proposeAck => some .proposeAck
  | .acceptAck => some .acceptAck
  | .shallILearn => some .shallILearn
  | .confirmLearn => some .confirmLearn
  | .learnerValueSend => some .learnerValueSend
  | .learnerValueSync => some .learnerValueSync
  | .syncValueAck => some .ackSyncValue
  | .valueChosenBroadcast => some .newValueChosen
  | .tellInstanceId => some .tellInstanceId
  | _ => none

/-- A message with the fields alone that the player it is for reads. -/
def read (message : PaxMessage) : PaxMessage :=
  let blank := PaxMessage.new message.sender message.messageType
  match message.messageType with
  | .proposeBroadcast =>
    { blank with
      sender := 0, proposingNodeId := message.proposingNodeId, proposalId := message.proposalId }
  | .acceptBroadcast =>
    { blank with
      sender := 0, proposingNodeId := message.proposingNodeId, proposalId := message.proposalId
      proposedLogValue := message.proposedLogValue }
  | .proposeAck =>
    { blank with
      sender := 0, proposingNodeId := message.proposingNodeId, proposalId := message.proposalId
      rejected := message.rejected, acceptedValue := message.acceptedValue
      promisedProposalId := message.promisedProposalId
      promisedNodeId := message.promisedNodeId, instanceId := message.instanceId }
  | .acceptAck =>
    { blank with
      sender := 0, proposingNodeId := message.proposingNodeId, proposalId := message.proposalId
      rejected := message.rejected, promisedProposalId := message.promisedProposalId
      promisedNodeId := message.promisedNodeId, instanceId := message.instanceId }
  | .learnerValueSend | .valueChosenBroadcast =>
    { blank with
      sender := 0, instanceId := message.instanceId, proposalId := message.proposalId
      proposingNodeId := message.proposingNodeId, chosenValue := message.chosenValue }
  | .learnerValueSync =>
    { blank with
      instanceId := message.instanceId, proposalId := message.proposalId
      proposingNodeId := message.proposingNodeId, chosenValue := message.chosenValue }
  | .shallILearn | .confirmLearn | .syncValueAck =>
    { blank with instanceId := message.instanceId }
  | .tellInstanceId =>
    { blank with instanceId := message.instanceId, leaderInstanceId := message.leaderInstanceId }
  | _ => message

section Read

variable (node : Node) (message : PaxMessage)

/-- The acceptor reads no other field. -/
theorem acceptor_read :
    PaxAcceptor.handleMessage node (read message) = PaxAcceptor.handleMessage node message := by
  cases message with
  | mk _ kind =>
    cases kind with
    | _ => rfl

/-- The proposer reads no other field. -/
theorem proposer_read (process : Node → PaxMessage → Node) :
    PaxProposer.handleMessage process node (read message) =
      PaxProposer.handleMessage process node message := by
  cases message with
  | mk _ kind =>
    cases kind with
    | _ => rfl

/-- The learner reads no other field. -/
theorem learner_read :
    PaxLearner.handleMessage node (read message) = PaxLearner.handleMessage node message := by
  cases message with
  | mk _ kind =>
    cases kind with
    | _ => rfl

end Read

/-- How a player passes a message on. -/
inductive Path where
  /-- `SendMessage`, to a peer. -/
  | send (peer : Peer)
  /-- `BroadcastMessage`. -/
  | broadcast

/-- The calls of `Send` of a client for a message. -/
def handed (peerHash : Peer → UInt64) (network : Network) (message : PaxMessage) :
    Path → List (Peer × PodMsg)
  | .send peer => [(network.send peerHash peer message).2]
  | .broadcast => network.broadcast message

/-- The requests that a message becomes, each with the peer of the client that issues it. -/
def issued (peerHash : Peer → UInt64) (network : Network) (message : PaxMessage) (path : Path) :
    List (Peer × Request) :=
  (handed peerHash network message path).filterMap fun call =>
    (GrpcClient.send call.2).map fun request => (call.1, request)

/-- How many requests there should be: one, or one for every client. -/
def expected (network : Network) : Path → Nat
  | .send _ => 1
  | .broadcast => network.clients.length

/-- The wire keeps a message: it becomes requests of the matching type, and a message of its type
that differs in a field that is read becomes other requests. -/
structure Keeps (peerHash : Peer → UInt64) (network : Network) (path : Path)
    (message : PaxMessage) : Prop where
  /-- One request goes to every peer addressed. -/
  one : (issued peerHash network message path).length = expected network path
  /-- The requests are of the matching type. -/
  matching : ∀ entry ∈ issued peerHash network message path,
    requestType message.messageType = some entry.2.type
  /-- Other fields give other requests. -/
  apart : ∀ other, other.messageType = message.messageType → read other ≠ read message →
    issued peerHash network other path ≠ issued peerHash network message path

/-- What `PODMessage` returns has no case in `GrpcClient::Send`. -/
theorem send_podMessage (message : PaxMessage) : GrpcClient.send (podMessage message) = none := rfl

/-- What a client is given is what `PODMessage` returns. -/
theorem mem_handed {peerHash : Peer → UInt64} {network : Network} {message : PaxMessage}
    {path : Path} {call : Peer × PodMsg} (member : call ∈ handed peerHash network message path) :
    call.2 = podMessage message := by
  cases path with
  | send peer =>
    rw [List.mem_singleton.mp member, Network.send]
    split
    · rfl
    · rfl
  | broadcast =>
    obtain ⟨client, -, rfl⟩ := List.mem_map.mp member
    rfl

/-- Nothing is issued for any message. -/
theorem issued_nil (peerHash : Peer → UInt64) (network : Network) (message : PaxMessage)
    (path : Path) : issued peerHash network message path = [] := by
  refine List.filterMap_eq_nil_iff.mpr fun call member => ?_
  rw [mem_handed member, send_podMessage, Option.map_none]

/-- Were all fields copied, four of the types that players send would still become no request. -/
theorem send_isSome_iff (podMsg : PodMsg) (kind : MessageType)
    (same : podMsg.messageType = kind.value) :
    (GrpcClient.send podMsg).isSome ↔
      kind ∈ [.proposeAck, .acceptAck, .learnerValueSync, .learnerValueSend, .syncValueAck,
        .tellInstanceId, .confirmLearn] := by
  cases kind with
  | _ => simp [GrpcClient.send, same, MessageType.value]

/-- Of every message that has a request message, another one differs in a field that is read. -/
theorem exists_read_ne (message : PaxMessage) (kind : RequestType)
    (carried : requestType message.messageType = some kind) :
    ∃ other, other.messageType = message.messageType ∧ read other ≠ read message := by
  refine ⟨{ message with
    instanceId := message.instanceId + 1, proposalId := message.proposalId + 1 }, rfl, ?_⟩
  cases message with
  | mk sender messageType proposed accepted learned chosen promised promisedNode instanceId proposalId =>
    cases messageType with
    | kNone => simp [requestType] at carried
    | valueChosen => simp [requestType] at carried
    | newValueCommitted => simp [requestType] at carried
    | _ => simp [read, PaxMessage.new]

/-- **No message is kept by the wire**, on either path. -/
theorem not_keeps (peerHash : Peer → UInt64) (network : Network) (path : Path)
    (message : PaxMessage) (kind : RequestType)
    (carried : requestType message.messageType = some kind) :
    ¬ Keeps peerHash network path message := by
  intro keeps
  obtain ⟨other, same, differs⟩ := exists_read_ne message kind carried
  exact keeps.apart other same differs (by rw [issued_nil, issued_nil])

/-- The value that node 7 has chosen does not reach two clients. -/
theorem not_keeps_chosen :
    ¬ Keeps (fun _ => 0) ⟨[(1, ⟨"10.0.0.1", 8000⟩), (2, ⟨"10.0.0.2", 8000⟩)]⟩ .broadcast
      { PaxMessage.new 7 .valueChosenBroadcast with instanceId := 3, chosenValue := [42] } :=
  not_keeps _ _ _ _ .newValueChosen rfl

/-- A prepare request of node 7 is lost in its client. -/
theorem propose_lost :
    ¬ Keeps (fun _ => 0) {} (.send ⟨"10.0.0.1", 8000⟩)
      { PaxMessage.new 7 .proposeBroadcast with proposingNodeId := 7, proposalId := 1 } := by
  intro keeps
  exact absurd keeps.one (by decide)

end Wire
end Paxosme
