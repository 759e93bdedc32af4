import Paxosme.Verif.Unlearned

/-!
# Agreement and validity

The two safety properties of a cluster over the lossy network, in which messages are lost,
duplicated and reordered, timers fire at any time and every node may submit values. Both hold
in every reachable state, for the reason that `recordedNothing` gives: no node records a value.
-/

namespace Paxosme
namespace Cluster

open Delivery

/-- The cluster on the air. -/
abbrev OnAir := Air NodeId Node PaxMessage

/-- The cluster at the start: fresh nodes, nothing sent. -/
def launched (deployment : Deployment) (instanceId : InstanceId) : OnAir :=
  ⟨deployment.start instanceId, []⟩

/-- The states that a cluster reaches when every message goes to the player that has a case
for it. -/
def Reachable (deployment : Deployment) (instanceId : InstanceId) (air : OnAir) : Prop :=
  Relation.ReflTransGen (LossyStep (party .handlers) deployment.members)
    (launched deployment instanceId) air

/-- A node has recorded a value for an instance in `PaxLearner::LearnNew`. -/
def Recorded (node : Node) (instanceId : InstanceId) (value : LogValue) : Prop :=
  ∃ proposalId proposer, .learnNew value instanceId proposalId proposer ∈ node.calls

/-- `NewValue` has flushed a value into the proposer of a node. -/
def Flushed (node : Node) (value : LogValue) : Prop :=
  ∃ instanceId, .flush instanceId value ∈ node.calls

/-- No two nodes record different values for one instance. -/
def Agreement (deployment : Deployment) (air : OnAir) : Prop :=
  ∀ first ∈ deployment.members, ∀ second ∈ deployment.members, ∀ instanceId value other,
    Recorded (air.states first) instanceId value →
    Recorded (air.states second) instanceId other → value = other

/-- Every recorded value was flushed into some proposer. -/
def Validity (deployment : Deployment) (air : OnAir) : Prop :=
  ∀ member ∈ deployment.members, ∀ instanceId value,
    Recorded (air.states member) instanceId value →
    ∃ proposer ∈ deployment.members, Flushed (air.states proposer) value

/-- An unlearned node has recorded no value. -/
theorem unlearned_recordedNothing {start : InstanceId} {node : Node}
    (unlearned : Unlearned start node) (instanceId : InstanceId) (value : LogValue) :
    ¬ Recorded node instanceId value := by
  rintro ⟨proposalId, proposer, member⟩
  exact unlearned.calls _ member

/-- The cluster starts unlearned. -/
theorem launched_sound (deployment : Deployment) (instanceId : InstanceId) :
    (launched deployment instanceId).Sound (Unlearned instanceId) (QuietMessage instanceId) :=
  ⟨fun _ => unlearned_fresh _ _, fun _ member => absurd member List.not_mem_nil⟩

/-- No node of a reachable cluster has recorded a value. -/
theorem recordedNothing (deployment : Deployment) (start : InstanceId) (air : OnAir)
    (reachable : Reachable deployment start air) (id : NodeId) (instanceId : InstanceId)
    (value : LogValue) : ¬ Recorded (air.states id) instanceId value := by
  have sound := (party_preserves .handlers start).lossy (launched_sound deployment start) reachable
  exact unlearned_recordedNothing (sound.1 id) instanceId value

/-- Agreement and validity hold in every reachable state of every cluster. -/
theorem agreement_validity (deployment : Deployment) (instanceId : InstanceId) (air : OnAir)
    (reachable : Reachable deployment instanceId air) :
    Agreement deployment air ∧ Validity deployment air := by
  have nothing := recordedNothing deployment instanceId air reachable
  constructor
  · intro first _ second _ learned value other recorded _
    exact absurd recorded (nothing first learned value)
  · intro member _ learned value recorded
    exact absurd recorded (nothing member learned value)

/-- Three nodes of which two are a majority. -/
def trio : Deployment := ⟨[7, 8, 9], by decide, by decide, 1 / 2, 0⟩

/-- The prepare request of node seven's first round. -/
def firstRequest : PaxMessage :=
  PaxProposer.prepareMessage
    (PaxProposer.newValue ((launched trio 0).states 7) (some [42]) 1000)

/-- Node seven has submitted a value. -/
def trioSubmitted : OnAir :=
  (launched trio 0).react 7
    ((party .handlers).act ((launched trio 0).states 7) (.newValue (some [42]) 1000))

/-- Node eight handles the request. -/
def requestDelivered (air : OnAir) : OnAir :=
  air.react 8 ((party .handlers).receive (air.states 8) firstRequest)

/-- Both properties after the request of node seven has reached node eight twice. -/
theorem agreement_validity_duplicate :
    Agreement trio (requestDelivered (requestDelivered trioSubmitted)) ∧
      Validity trio (requestDelivered (requestDelivered trioSubmitted)) := by
  have submit : LossyStep (party .handlers) trio.members (launched trio 0) trioSubmitted :=
    LossyStep.act _ 7 List.mem_cons_self (Activity.newValue (some [42]) 1000)
  have deliver : ∀ air : OnAir, .broadcast firstRequest ∈ air.sent →
      LossyStep (party .handlers) trio.members air (requestDelivered air) := fun air posted =>
    .receive air 8 (by decide) (.broadcast firstRequest) posted trivial
  have sent : .broadcast firstRequest ∈ trioSubmitted.sent := by decide +kernel
  have once := (Relation.ReflTransGen.single submit).tail (deliver _ sent)
  exact agreement_validity trio 0 _ (once.tail (deliver _ (List.mem_append_left _ sent)))

end Cluster
end Paxosme
