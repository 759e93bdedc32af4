import Paxosme.Verif.Unlearned

/-!
# A fault-free round

One member of a fresh cluster submits one value, no timer fires and the ordered network
delivers each packet once. A round that works would end with the value learned, executed and
left behind at every member. The tests by which the source routes messages drop everything
but the two requests, so a round ends when the last acknowledgement has been dropped: it does
end, whatever the members and the order of deliveries, and nobody has learned anything.
-/

namespace Paxosme
namespace Cluster

open Delivery

/-- The cluster on the wire. -/
abbrev OnWire := Wire NodeId Node PaxMessage

/-- One step of a fault-free round. -/
abbrev RoundStep (deployment : Deployment) : OnWire → OnWire → Prop :=
  OrderedStep (undisturbed .source) deployment.members

/-- The cluster after one member has submitted one value. -/
def submitted (deployment : Deployment) (instanceId : InstanceId) (proposer : deployment.Member)
    (value : LogValue) (timeout : Millisec) : OnWire :=
  (⟨deployment.start instanceId, [], 0⟩ : OnWire).react deployment.members proposer.1
    ((party .source).act (deployment.start instanceId proposer.1)
      (.newValue (some value) timeout)) []

/-- A node has learned a value for an instance, has executed it once and has moved on. -/
structure Decided (instanceId : InstanceId) (value : LogValue) (node : Node) : Prop where
  /-- The value was recorded. -/
  learned : ∃ proposalId proposer, .learnNew value instanceId proposalId proposer ∈ node.calls
  /-- The state machine got it once. -/
  executed : node.calls.count (.execute instanceId value) = 1
  /-- The next instance is current. -/
  moved : node.instanceId = instanceId + 1

/-- Whenever no message is left in flight, every member has decided. -/
def RoundDecides (deployment : Deployment) (instanceId : InstanceId)
    (proposer : deployment.Member) (value : LogValue) (timeout : Millisec) : Prop :=
  ∀ final, Relation.ReflTransGen (RoundStep deployment)
      (submitted deployment instanceId proposer value timeout) final →
    final.packets = [] → ∀ member ∈ deployment.members,
      Decided instanceId value (final.states member)

/-- The weight of a message in flight: a request may cause one acknowledgement. -/
def weight (message : PaxMessage) : Nat := if PaxAcceptor.IsRequest message then 2 else 1

/-- Under the routing of the source an unlearned node does with a message what its acceptor
does. -/
theorem source_handleMessage {instanceId : InstanceId} {node : Node}
    (unlearned : Unlearned instanceId node) (message : PaxMessage)
    (quiet : QuietMessage instanceId message) :
    PaxController.handleMessage .source node message =
      PaxAcceptor.handleMessage node message := by
  rw [PaxController.handleMessage, PaxController.handleMessageBody,
    PaxController.source_placeHolder, if_neg (by decide), PaxController.source_dispatch,
    (unlearned.acceptor message quiet).finish_eq]

/-- Every message weighs something. -/
theorem weight_pos (message : PaxMessage) : 0 < weight message := by
  unfold weight
  split
  · decide
  · decide

/-- An acknowledgement weighs one. -/
theorem weight_ack (message ack : PaxMessage)
    (isAck : ack.messageType = PaxAcceptor.ackType message) : weight ack = 1 := by
  refine if_neg fun isRequest => ?_
  rw [PaxAcceptor.IsRequest, isAck, PaxAcceptor.ackType] at isRequest
  split at isRequest
  · simp at isRequest
  · simp at isRequest

/-- A step that does nothing weighs nothing. -/
theorem load_idle (members : List NodeId) (source : NodeId) (group : Nat) (node : Node) :
    load weight (packetsOf members source group (posts (Node.callsSince node node))) = 0 := by
  rw [Node.callsSince_of_append (List.append_nil _).symm]
  rfl

/-- A message outweighs what the acceptor answers: to a request one acknowledgement, and to
every other message nothing. -/
theorem acceptor_drains (members : List NodeId) (source : NodeId) (group : Nat) (node : Node)
    (message : PaxMessage) :
    load weight (packetsOf members source group
        (perform (PaxAcceptor.handleMessage · message) node).2) <
      weight message := by
  rw [perform]
  by_cases request : PaxAcceptor.IsRequest message
  · have heavy : weight message = 2 := if_pos request
    have light : ∀ ack, ack.messageType = PaxAcceptor.ackType message →
        load weight (packetsOf members source group [.unicast message.proposingNodeId ack]) <
          2 := by
      intro ack isAck
      have most := load_unicast_le weight members source message.proposingNodeId group ack
      rw [weight_ack message ack isAck] at most
      omega
    rw [heavy]
    by_cases above : PaxAcceptor.promisedPair node.acceptor < PaxAcceptor.requestPair message
    · rw [PaxAcceptor.handleMessage_granted node message request above,
        Node.callsSince_of_append rfl]
      exact light _ (PaxAcceptor.grantedAck_messageType node message)
    · rw [PaxAcceptor.handleMessage_refused node message request above,
        Node.callsSince_of_append rfl]
      exact light _ rfl
  · rw [PaxAcceptor.handleMessage_other node message request, load_idle]
    exact weight_pos message

/-- A message outweighs what an unlearned node does with it. -/
theorem undisturbed_drains (members : List NodeId) (instanceId : InstanceId) (source : NodeId)
    (group : Nat) (node : Node) (message : PaxMessage) (unlearned : Unlearned instanceId node)
    (quiet : QuietMessage instanceId message) :
    load weight (packetsOf members source group
        ((undisturbed .source).receive node message).2) <
      weight message := by
  by_cases blocked : node.blocked = true
  · have idle : (undisturbed .source).receive node message =
        (node, posts (Node.callsSince node node)) := by
      simp only [undisturbed, party, perform, onMainThread, if_pos blocked]
    rw [idle, load_idle]
    exact weight_pos message
  · have handled : (undisturbed .source).receive node message =
        perform (PaxAcceptor.handleMessage · message) node := by
      have acceptor := source_handleMessage unlearned message quiet
      simp only [undisturbed, party, perform, onMainThread, if_neg blocked, acceptor]
    rw [handled]
    exact acceptor_drains members source group node message

/-- The cluster is unlearned when the value is submitted. -/
theorem submitted_sound (deployment : Deployment) (instanceId : InstanceId)
    (proposer : deployment.Member) (value : LogValue) (timeout : Millisec) :
    (submitted deployment instanceId proposer value timeout).Sound (Unlearned instanceId)
      (QuietMessage instanceId) := by
  have fresh : Wire.Sound (Unlearned instanceId) (QuietMessage instanceId)
      (⟨deployment.start instanceId, [], 0⟩ : OnWire) :=
    ⟨fun _ => unlearned_fresh _ _, fun _ member => absurd member List.not_mem_nil⟩
  exact fresh.react proposer.1 (fun _ member => absurd member List.not_mem_nil)
    ((party_preserves .source instanceId).act _ _ (fresh.1 proposer.1))

/-- Every round comes to an end with every node unlearned. -/
theorem round_ends_unlearned (deployment : Deployment) (instanceId : InstanceId)
    (proposer : deployment.Member) (value : LogValue) (timeout : Millisec) :
    ∃ final, Relation.ReflTransGen (RoundStep deployment)
        (submitted deployment instanceId proposer value timeout) final ∧
      final.packets = [] ∧ ∀ id, Unlearned instanceId (final.states id) := by
  have sound := submitted_sound deployment instanceId proposer value timeout
  have preserves := undisturbed_preserves .source instanceId
  obtain ⟨final, run, silent⟩ := preserves.exists_silent weight
    (undisturbed_drains deployment.members instanceId) _ sound
  exact ⟨final, run, silent, (preserves.ordered sound run).1⟩

/-- An unlearned node has not decided. -/
theorem unlearned_undecided {instanceId : InstanceId} {node : Node}
    (unlearned : Unlearned instanceId node) (value : LogValue) :
    ¬ Decided instanceId value node := by
  intro decided
  obtain ⟨proposalId, proposer, member⟩ := decided.learned
  exact unlearned.calls _ member

/-- **No fault-free round decides**, whatever the members, the proposer, the instance and the
value. -/
theorem roundDecides_never (deployment : Deployment) (instanceId : InstanceId)
    (proposer : deployment.Member) (value : LogValue) (timeout : Millisec) :
    ¬ RoundDecides deployment instanceId proposer value timeout := by
  intro decides
  obtain ⟨final, run, silent, unlearned⟩ :=
    round_ends_unlearned deployment instanceId proposer value timeout
  exact unlearned_undecided (unlearned proposer.1) value
    (decides final run silent proposer.1 proposer.2)

/-- One node alone. -/
def hermit : Deployment := ⟨[7], by decide, by decide, 1 / 2, 0⟩

/-- The round of one node alone does not decide. -/
theorem roundDecides_hermit : ¬ RoundDecides hermit 0 ⟨7, by decide⟩ [42] 1000 := by
  intro decides
  obtain ⟨final, run, silent, unlearned⟩ :=
    round_ends_unlearned hermit 0 ⟨7, by decide⟩ [42] 1000
  exact unlearned_undecided (unlearned 7) [42] (decides final run silent 7 (by decide))

end Cluster
end Paxosme
