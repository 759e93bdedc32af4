import Paxosme.Core.Messages
import Paxosme.Lib.Doubles

/-!
# The network

A message is copied twice on its way out: `PODMessage` makes a `PodMsg` of it, which `Network` hands
to a client, and `GrpcClient::Send` makes a gRPC request of that, by a switch over the message
types. A client is the peer that it was made for; whether a call to the remote side succeeds is not
modelled.
-/

namespace Paxosme

/-- `PodMsg`, value-initialised. -/
structure PodMsg where
  /-- `messageType`. -/
  messageType : Nat := 0
  /-- `proposedLogValue`. -/
  proposedLogValue : LogValue := []
  /-- `acceptedValue`. -/
  acceptedValue : LogValue := []
  /-- `learnedValue`. -/
  learnedValue : LogValue := []
  /-- `chosenValue`. -/
  chosenValue : LogValue := []
  /-- `promisedProposalId`. -/
  promisedProposalId : ProposalId := 0
  /-- `promisedNodeId`. -/
  promisedNodeId : NodeId := 0
  /-- `instanceId`. -/
  instanceId : InstanceId := 0
  /-- `proposalId`. -/
  proposalId : ProposalId := 0
  /-- `proposingNodeId`. -/
  proposingNodeId : NodeId := 0
  /-- `followingNodeId`. -/
  followingNodeId : NodeId := 0
  /-- `acceptedProposalId`. -/
  acceptedProposalId : ProposalId := 0
  /-- `leaderInstanceId`. -/
  leaderInstanceId : InstanceId := 0
  /-- `senderId`. -/
  senderId : NodeId := 0
  /-- `rejected`. -/
  rejected : Bool := false
  deriving DecidableEq, Repr

/-- The request messages of the service `Paxosme`. -/
inductive RequestType where
  | propose
  | proposeAck
  | accept
  | acceptAck
  | newValueChosen
  | shallILearn
  | learnerValueSync
  | learnerValueSend
  | ackSyncValue
  | tellInstanceId
  | confirmLearn
  deriving DecidableEq, Repr

/-- A request that `GrpcClient::Send` makes, with the fields of its message. -/
inductive Request where
  | proposeAck (isRejected : Bool) (promisedProposalId : ProposalId) (instanceId : InstanceId)
      (acceptedLogValue : LogValue) (promisedNodeId senderId : NodeId) (proposalId : ProposalId)
      (replyTo : NodeId)
  | acceptAck (instanceId : InstanceId) (promisedNodeId : NodeId)
      (promisedProposalId acceptedId : ProposalId) (acceptedValue : LogValue) (rejected : Bool)
      (senderId : NodeId) (proposalId : ProposalId) (proposingNodeId : NodeId)
  | learnerValueSync (instanceId : InstanceId) (value : LogValue) (proposalId : ProposalId)
      (proposingNodeId senderId : NodeId)
  | learnerValueSend (instanceId : InstanceId) (value : LogValue) (proposalId : ProposalId)
      (proposingNodeId senderId : NodeId)
  | ackSyncValue (instanceId : InstanceId) (senderId : NodeId)
  | tellInstanceId (followerInstanceId leaderInstanceId : InstanceId) (senderId : NodeId)
  | confirmLearn (instanceId : InstanceId) (senderId : NodeId)
  deriving DecidableEq, Repr

/-- The message of a request. -/
def Request.type : Request → RequestType
  | .proposeAck .. => .proposeAck
  | .acceptAck .. => .acceptAck
  | .learnerValueSync .. => .learnerValueSync
  | .learnerValueSend .. => .learnerValueSend
  | .ackSyncValue .. => .ackSyncValue
  | .tellInstanceId .. => .tellInstanceId
  | .confirmLearn .. => .confirmLearn

/-- `PODMessage`. Nothing of the message is copied. -/
def podMessage (_message : PaxMessage) : PodMsg := {}

/-- `GrpcClient::Send` — the request that it issues. The enumerators of `PodMsgType` have the
numbers of those of `MessageType`. The fields that are not set are zero. -/
def GrpcClient.send (podMsg : PodMsg) : Option Request :=
  if podMsg.messageType = MessageType.proposeAck.value then
    some (.proposeAck podMsg.rejected podMsg.promisedProposalId podMsg.instanceId
      podMsg.acceptedValue podMsg.promisedNodeId podMsg.senderId 0 0)
  else if podMsg.messageType = MessageType.acceptAck.value then
    some (.acceptAck podMsg.instanceId podMsg.promisedNodeId podMsg.promisedProposalId
      podMsg.acceptedProposalId podMsg.acceptedValue podMsg.rejected podMsg.senderId 0 0)
  else if podMsg.messageType = MessageType.learnerValueSync.value then
    some (.learnerValueSync podMsg.instanceId podMsg.chosenValue podMsg.proposalId
      podMsg.proposingNodeId podMsg.senderId)
  else if podMsg.messageType = MessageType.learnerValueSend.value then
    some (.learnerValueSend podMsg.instanceId podMsg.chosenValue podMsg.proposalId
      podMsg.proposingNodeId podMsg.senderId)
  else if podMsg.messageType = MessageType.syncValueAck.value then
    some (.ackSyncValue podMsg.instanceId podMsg.senderId)
  else if podMsg.messageType = MessageType.tellInstanceId.value then
    some (.tellInstanceId podMsg.instanceId podMsg.leaderInstanceId podMsg.senderId)
  else if podMsg.messageType = MessageType.confirmLearn.value then
    some (.confirmLearn podMsg.instanceId podMsg.senderId)
  else none

/-- `Peer`. -/
structure Peer where
  /-- `ip`. -/
  ip : String
  /-- `port`. -/
  port : UInt32
  deriving DecidableEq, Repr

/-- `Peer::ToString`. -/
def Peer.toString (peer : Peer) : String := peer.ip ++ ":" ++ Nat.repr peer.port.toNat

namespace PeerHash

/-- `hashCode += st[i] * pow(PRIME_CONST, i)`, before the sum is converted to a `size_t`. The code
computes it in doubles, where `round` is `Doubles.nearest`; `id` makes it exact. -/
def add (round : Nat → Nat) (i hashCode : Nat) (char : Char) : Nat :=
  round (round hashCode + round (char.toNat * round (31 ^ i)))

/-- The loop of `PeerHash::operator()` from index `i` on. The conversion of a sum that is no
`size_t` is undefined. -/
def loop (round : Nat → Nat) (i hashCode : Nat) : List Char → Option Nat
  | [] => some hashCode
  | char :: rest =>
    if add round i hashCode char < 2 ^ 64 then loop round (i + 1) (add round i hashCode char) rest
    else none

/-- `PeerHash::operator()`. -/
def hash (round : Nat → Nat) (peer : Peer) : Option UInt64 :=
  (loop round 0 0 peer.toString.toList).map UInt64.ofNat

end PeerHash

/-- `NetworkImpl`: `clients_`, by the hash of the peer. -/
structure Network where
  /-- `clients_`. -/
  clients : List (UInt64 × Peer) := []

namespace Network

/-- `clients_.emplace`: a key that is there keeps its client. -/
def emplace (network : Network) (hash : UInt64) (client : Peer) : Network :=
  match network.clients.lookup hash with
  | none => { network with clients := network.clients ++ [(hash, client)] }
  | some _ => network

/-- `Network::Start` of the clients, given the hash of a peer and the peers as the set iterates
over them. -/
def start (peerHash : Peer → UInt64) (network : Network) (peers : List Peer) : Network :=
  peers.foldl (fun network peer => network.emplace (peerHash peer) peer) network

/-- `Network::Send`, given the hash of a peer: the client whose `Send` it calls, and with what. -/
def send (peerHash : Peer → UInt64) (network : Network) (peer : Peer) (message : PaxMessage) :
    Network × Peer × PodMsg :=
  match network.clients.lookup (peerHash peer) with
  | none =>
    ({ network with clients := network.clients ++ [(peerHash peer, peer)] },
      peer, podMessage message)
  | some client => (network, client, podMessage message)

/-- `Network::Broadcast`: the clients whose `Send` it calls, and with what. -/
def broadcast (network : Network) (message : PaxMessage) : List (Peer × PodMsg) :=
  network.clients.map fun client => (client.2, podMessage message)

end Network

end Paxosme
