import Paxosme.Lib.Runs
import Paxosme.Core.Cluster

/-!
# Acknowledging synchronised values

A follower learns a synchronised value of its own instance alone, and acknowledges every one
under its own instance. So an acknowledgement tells the truth exactly when the value was of the
own instance, or the own instance was learned and persisted before and has not been left yet.
-/

namespace Paxosme
namespace SyncAcks

/-- What can happen to a follower: a `LEARNER_VALUE_SYNC` message, or the end of
`PaxController::HandleMessage`, which leaves a learned instance. -/
inductive Event where
  | syncValue (message : PaxMessage)
  | advance

/-- The state after an event. -/
def step (node : Node) : Event → Node
  | .syncValue message =>
    Cluster.onMainThread (PaxLearner.handleSyncValue · message) node
  | .advance => PaxController.finish node

/-- The value of an instance is learned and persisted. -/
structure Knows (node : Node) (instanceId : InstanceId) : Prop where
  /-- The instance has been left, or it is the own one and its value learned. -/
  learned : instanceId < node.instanceId ∨
    instanceId = node.instanceId ∧ node.learner.learnerState.learned = true
  /-- The log holds a record of the instance, of the value learned in the own one. -/
  persisted : ∃ entry, node.storage.readLog instanceId = some entry ∧
    (instanceId = node.instanceId →
      entry.acceptedValue = node.learner.learnerState.logValue)

/-- The acknowledgements that an event sends name instances that the follower knows. -/
def AcksKnown (node : Node) (event : Event) : Prop :=
  ∀ target ack, (target, ack) ∈ Node.sends (Node.callsSince node (step node event)) →
    ack.messageType = .syncValueAck → Knows (step node event) ack.instanceId

/-- Every acknowledgement of a run names an instance that the follower knows by then. -/
def Truthful (start : Node) (events : List Event) : Prop :=
  ∀ earlier event later, events = earlier ++ event :: later →
    AcksKnown (Runs.run step start earlier) event

/-- A value that comes is of the own instance, or that is known already. -/
def InStep (node : Node) : Event → Prop
  | .syncValue message =>
    node.blocked = false → message.instanceId = node.instanceId ∨ Knows node node.instanceId
  | .advance => True

/-- A synchronised value is acknowledged under the own instance, and by nothing else. -/
theorem sends_handleSyncValue (node : Node) (message : PaxMessage) :
    Node.sends (Node.callsSince node (PaxLearner.handleSyncValue node message)) =
      [(message.sender, { PaxMessage.new node.getNodeId .syncValueAck with
        instanceId := node.instanceId })] := by
  have same := PaxLearner.besides_learnFromOthers node message
  simp only [PaxLearner.besides, Prod.mk.injEq] at same
  obtain ⟨learning, appended, learns⟩ := PaxLearner.learnFromOthers_adds node message
  have silent : Node.sends learning = [] := by
    refine List.filterMap_eq_nil_iff.mpr fun call member => ?_
    have kind := learns call member
    cases call with
    | send => exact absurd kind id
    | _ => rfl
  have calls : (PaxLearner.handleSyncValue node message).calls = node.calls ++ (learning ++
      [.send message.sender { PaxMessage.new node.getNodeId .syncValueAck with
        instanceId := node.instanceId }]) := by
    rw [PaxLearner.handleSyncValue, PaxLearner.ackLearnValue, Node.sendMessage, Node.record,
      appended, Node.getNodeId, same.1, same.2.1, List.append_assoc]
    rfl
  rw [Node.callsSince_of_append calls, Node.sends, List.filterMap_append, ← Node.sends, silent]
  rfl

/-- A synchronised value is known once it is handled exactly when it was of the own instance, or
that was known already. -/
theorem knows_handleSyncValue_iff (node : Node) (message : PaxMessage) :
    Knows (PaxLearner.handleSyncValue node message) node.instanceId ↔
      message.instanceId = node.instanceId ∨ Knows node node.instanceId := by
  by_cases current : message.instanceId = node.instanceId
  · refine iff_of_true ?_ (.inl current)
    have learned := PaxLearner.learnFromOthers_current node message current
    rw [PaxLearner.handleSyncValue, learned]
    refine ⟨.inr ⟨rfl, rfl⟩, PaxLearner.learnedEntry message, ?_, fun _ => rfl⟩
    have read := PaxStore.readLog_writeLog node.storage (PaxLearner.learnedEntry message)
    rw [← current]
    exact read
  · have outdated := PaxLearner.learnFromOthers_outdated node message current
    rw [PaxLearner.handleSyncValue, outdated]
    constructor
    · rintro ⟨learned, persisted⟩
      exact .inr ⟨learned, persisted⟩
    · rintro (same | ⟨learned, persisted⟩)
      · exact absurd same current
      · exact ⟨learned, persisted⟩

/-- The end of the handler acknowledges nothing. -/
theorem sends_advance (node : Node) :
    Node.sends (Node.callsSince node (PaxController.finish node)) = [] := by
  refine List.eq_nil_iff_forall_not_mem.mpr fun sent member => ?_
  have called := Node.mem_sends.mp (show (sent.1, sent.2) ∈ Node.sends _ from member)
  have final := (PaxController.finish_adds node).callsSince _ called
  simp [PaxController.finalCalls] at final

/-- An event tells the truth exactly when it is in step. -/
theorem acksKnown_iff (node : Node) (event : Event) :
    AcksKnown node event ↔ InStep node event := by
  cases event with
  | advance =>
    refine iff_of_true (fun target ack member => ?_) trivial
    have none := sends_advance node
    rw [step, none] at member
    exact absurd member List.not_mem_nil
  | syncValue message =>
    rw [AcksKnown, InStep]
    cases blocked : node.blocked with
    | true =>
      have still : step node (.syncValue message) = node := by
        rw [step, Cluster.onMainThread_blocked _ node blocked]
      refine iff_of_true (fun target ack member => ?_) (fun free => ?_)
      · rw [still, Node.callsSince, List.drop_length] at member
        exact absurd member List.not_mem_nil
      · exact absurd free.symm Bool.false_ne_true
    | false =>
      have handled : step node (.syncValue message) = PaxLearner.handleSyncValue node message := by
        rw [step, Cluster.onMainThread_free _ node blocked]
      have sent := sends_handleSyncValue node message
      rw [handled, sent, ← knows_handleSyncValue_iff]
      constructor
      · intro known _
        exact known _ _ List.mem_cons_self rfl
      · intro known target ack member _
        obtain ⟨rfl, rfl⟩ := Prod.mk.inj (List.mem_singleton.mp member)
        exact known rfl

/-- **The acknowledgements of a follower are truthful exactly when every synchronised value comes
in step.** -/
theorem truthful_iff (start : Node) (events : List Event) :
    Truthful start events ↔ Runs.Along step InStep start events := by
  rw [Runs.along_iff]
  constructor
  · intro truthful earlier event later split
    exact (acksKnown_iff _ _).mp (truthful earlier event later split)
  · intro inStep earlier event later split
    exact (acksKnown_iff _ _).mpr (inStep earlier event later split)

/-- The value of an earlier instance is acknowledged under the own one, which has no value. -/
theorem truthful_not_outdated :
    ¬ Truthful (Node.fresh ⟨8, 1 / 2, 3, 0⟩ 5)
      [.syncValue { PaxMessage.new 7 .learnerValueSync with instanceId := 3 }] := by
  intro truthful
  have inStep := (acksKnown_iff _ _).mp (truthful [] _ [] rfl)
  rcases inStep rfl with same | known
  · exact absurd same (by decide)
  · rcases known.learned with left | ⟨_, learned⟩
    · exact absurd left (by decide)
    · exact absurd learned Bool.false_ne_true

end SyncAcks
end Paxosme
