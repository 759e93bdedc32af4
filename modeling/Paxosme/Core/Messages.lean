import Paxosme.Lib.WordOrder

/-!
# Words, values and messages

The identifiers of the source are 64-bit words, and a value is a byte string. A message is
one record for every message type; a constructor call sets its sender and its type, and every
other field starts at zero or empty until a setter writes it.
-/

namespace Paxosme

/-- `node_id_t`. -/
abbrev NodeId := UInt64
/-- `proposal_id_t`. -/
abbrev ProposalId := UInt64
/-- `instance_id_t`. -/
abbrev InstanceId := UInt64
/-- `millisec`. -/
abbrev Millisec := UInt64
/-- `LogValue`, a `std::string`: its bytes. -/
abbrev LogValue := List UInt8

/-- `NODE_DUMMY`. -/
abbrev nodeDummy : NodeId := 0
/-- `PROPOSAL_DUMMY`. -/
abbrev proposalDummy : ProposalId := 0
/-- `INSTANCE_DUMMY`. -/
abbrev instanceDummy : InstanceId := 0

/-- `MessageType`, one constructor per enumerator. -/
inductive MessageType where
  | kNone
  | proposeBroadcast
  | acceptBroadcast
  | proposeAck
  | acceptAck
  | valueChosen
  | shallILearn
  | confirmLearn
  | learnerValueSend
  | learnerValueSync
  | syncValueAck
  | valueChosenBroadcast
  | tellInstanceId
  | newValueCommitted
  deriving DecidableEq, Repr

/-- The number of an enumerator: the groups start at `0x1 << 3`, `0x11 << 3`, `0x111 << 3`
and `0x1111 << 3`. -/
def MessageType.value : MessageType → Nat
  | .kNone => 0
  | .proposeBroadcast => 0x1 <<< 3
  | .acceptBroadcast => (0x1 <<< 3) + 1
  | .proposeAck => 0x11 <<< 3
  | .acceptAck => (0x11 <<< 3) + 1
  | .valueChosen => 0x111 <<< 3
  | .shallILearn => (0x111 <<< 3) + 1
  | .confirmLearn => (0x111 <<< 3) + 2
  | .learnerValueSend => (0x111 <<< 3) + 3
  | .learnerValueSync => (0x111 <<< 3) + 4
  | .syncValueAck => (0x111 <<< 3) + 5
  | .valueChosenBroadcast => (0x111 <<< 3) + 6
  | .tellInstanceId => (0x111 <<< 3) + 7
  | .newValueCommitted => 0x1111 <<< 3

/-- `PaxMessage`. The field that no function of the source reads or sets, `followingNodeId_`,
is left out. -/
structure PaxMessage where
  /-- `senderId_`. -/
  sender : NodeId
  /-- `messageType_`. -/
  messageType : MessageType
  /-- `proposed_log_value_`. -/
  proposedLogValue : LogValue := []
  /-- `accepted_value_`. -/
  acceptedValue : LogValue := []
  /-- `learned_value_`. -/
  learnedValue : LogValue := []
  /-- `chosen_value_`. -/
  chosenValue : LogValue := []
  /-- `promisedProposalId_`. -/
  promisedProposalId : ProposalId := 0
  /-- `promisedNodeId_`. -/
  promisedNodeId : NodeId := 0
  /-- `instanceId_`. -/
  instanceId : InstanceId := 0
  /-- `proposalId_`. -/
  proposalId : ProposalId := 0
  /-- `proposingNodeId_`. -/
  proposingNodeId : NodeId := 0
  /-- `acceptedProposalId_`. -/
  acceptedProposal : ProposalId := 0
  /-- `leaderInstanceId_`. -/
  leaderInstanceId : InstanceId := 0
  /-- `rejected_`. -/
  rejected : Bool := false
  deriving DecidableEq, Repr

/-- `PaxMessage(node_id_t, MessageType)`. -/
def PaxMessage.new (sender : NodeId) (messageType : MessageType) : PaxMessage :=
  { sender, messageType }

/-- `PaxAcceptorReplyMessage`, value-initialised before its setters run. -/
structure PaxAcceptorReplyMessage where
  /-- `accepted_id_`. -/
  acceptedId : ProposalId := 0
  /-- `accepted_value_`. -/
  acceptedValue : LogValue := []
  /-- `promised_id_`. -/
  promisedProposalId : ProposalId := 0
  /-- `promised_node_id_`. -/
  promisedNodeId : NodeId := 0
  /-- `instance_id_`. -/
  instanceId : InstanceId := 0
  /-- `is_rejected_`. -/
  isRejected : Bool := false
  /-- `proposer_id_`. -/
  proposerId : NodeId := 0

/-- `PaxosLogEntry`, a protobuf record whose unset fields read as zero or empty. The field
that the source never sets, `leader_instance_id`, is left out. -/
structure PaxosLogEntry where
  /-- `instance_id`. -/
  instanceId : InstanceId := 0
  /-- `promised_proposal_id`. -/
  promisedProposalId : ProposalId := 0
  /-- `promised_node_id`. -/
  promisedNodeId : NodeId := 0
  /-- `accepted_proposal_id`. -/
  acceptedProposalId : ProposalId := 0
  /-- `accepted_node_id`. -/
  acceptedNodeId : NodeId := 0
  /-- `accepted_value`. -/
  acceptedValue : LogValue := []
  /-- `proposer_id`. -/
  proposerId : NodeId := 0
  deriving DecidableEq, Repr

end Paxosme
