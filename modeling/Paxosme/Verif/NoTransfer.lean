import Paxosme.Core.Cluster

/-!
# No transfer is started

A transfer of values begins with a message of type `kMSG_CONFIRM_LEARN`, which `ConfirmLearn`
builds and no function sends. So the sending thread of every node waits for a job for ever, and
no value of a transfer is ever sent. Beside this the invariant says what a main thread finds
between two calls: the mutex of the following side is free and no learned value is left. It
holds for every routing, in every interleaving of the steps of all nodes.
-/

namespace Paxosme

open Delivery

/-- A message that neither starts a transfer nor is a part of one. -/
def NoTransfer (message : PaxMessage) : Prop :=
  message.messageType ≠ .confirmLearn ∧ message.messageType ≠ .learnerValueSync

instance instDecidableNoTransfer (message : PaxMessage) : Decidable (NoTransfer message) :=
  inferInstanceAs (Decidable (_ ∧ _))

/-- A message of any other type. -/
theorem noTransfer_of_type (kind : MessageType) {message : PaxMessage}
    (same : message.messageType = kind) (confirm : kind ≠ .confirmLearn)
    (sync : kind ≠ .learnerValueSync) : NoTransfer message := by
  rw [NoTransfer, same]
  exact ⟨confirm, sync⟩

/-- A call that sends no such message. -/
def NoTransferCall : Call → Prop
  | .send _ message | .broadcast message => NoTransfer message
  | _ => True

/-- A node in a call of the main thread, without a transfer. -/
structure Untransferred (node : Node) : Prop where
  /-- No job is prepared. -/
  stale : node.learner.jobStatus = .kStale
  /-- The sending thread waits for a job. -/
  waiting : node.learner.sendingPoint = .waitForReady
  /-- The mutex of the following side is free, or the thread waits for it. -/
  unlocked : node.blocked = false → node.learner.mutexFollow = false
  /-- No message of a transfer has been sent. -/
  calls : ∀ call ∈ node.calls, NoTransferCall call

/-- A node between two calls of the main thread, without a transfer. -/
structure Resting (node : Node) : Prop extends Untransferred node where
  /-- No learned value is left to execute. -/
  unlearned : node.blocked = false → node.learner.learnerState.learned = false

/-- A fresh node rests. -/
theorem resting_fresh (options : PaxosOptions) (instanceId : InstanceId) :
    Resting (Node.fresh options instanceId) :=
  ⟨⟨rfl, rfl, fun _ => rfl, fun _ member => absurd member List.not_mem_nil⟩, fun _ => rfl⟩

/-- A main thread between two calls, in a node whose sending thread has no job. -/
structure AtRest (node : Node) : Prop where
  /-- The thread is not blocked. -/
  free : node.blocked = false
  /-- The mutex of the following side is free. -/
  unlocked : node.learner.mutexFollow = false
  /-- No learned value is left to execute. -/
  unlearned : node.learner.learnerState.learned = false
  /-- No job is prepared. -/
  stale : node.learner.jobStatus = .kStale
  /-- The sending thread waits for a job. -/
  waiting : node.learner.sendingPoint = .waitForReady

/-- A resting node whose thread is not blocked is at rest. -/
theorem Resting.atRest {node : Node} (resting : Resting node) (free : node.blocked = false) :
    AtRest node :=
  ⟨free, resting.unlocked free, resting.unlearned free, resting.stale, resting.waiting⟩

section Steps

variable {node : Node}

/-- A step that leaves the job, the mutex and the thread as they are and sends no message of a
transfer. -/
theorem Untransferred.keep {after : Node} (untransferred : Untransferred node)
    (stale : after.learner.jobStatus = node.learner.jobStatus)
    (waiting : after.learner.sendingPoint = node.learner.sendingPoint)
    (unlocked : after.learner.mutexFollow = node.learner.mutexFollow)
    (blocked : after.blocked = node.blocked)
    (adds : Node.Adds NoTransferCall node after) : Untransferred after where
  stale := stale.trans untransferred.stale
  waiting := waiting.trans untransferred.waiting
  unlocked free := unlocked.trans (untransferred.unlocked (blocked.symm.trans free))
  calls call member := by
    obtain ⟨later, appended, fine⟩ := adds
    rw [appended] at member
    rcases List.mem_append.mp member with old | new
    · exact untransferred.calls call old
    · exact fine call new

/-- A step that leaves the learner and the thread as they are. -/
theorem Untransferred.keepLearner {after : Node} (untransferred : Untransferred node)
    (learner : after.learner = node.learner) (blocked : after.blocked = node.blocked)
    (adds : Node.Adds NoTransferCall node after) : Untransferred after :=
  untransferred.keep (by rw [learner]) (by rw [learner]) (by rw [learner]) blocked adds

/-- `Propose` starts no transfer. -/
theorem Untransferred.propose (untransferred : Untransferred node) :
    Untransferred (PaxProposer.propose node) := by
  rw [PaxProposer.propose_eq]
  refine untransferred.keepLearner rfl rfl ⟨_, rfl, ?_⟩
  intro call member
  rcases List.mem_pair.mp member with rfl | rfl
  · trivial
  · exact noTransfer_of_type .proposeBroadcast rfl (by decide) (by decide)

/-- Counted votes and the timer of a round start no transfer. -/
theorem Untransferred.relaunch (untransferred : Untransferred node) (proposer : PaxProposer)
    (eventType : EventType) (delay : Millisec) (message : PaxMessage) :
    Untransferred { node with
      proposer
      calls := node.calls ++ PaxProposer.relaunch proposer.proposalCounter node.options eventType
        delay message } := by
  refine untransferred.keepLearner rfl rfl ⟨_, rfl, fun call member => ?_⟩
  unfold PaxProposer.relaunch at member
  split at member
  · rw [List.mem_singleton.mp member]
    trivial
  · exact absurd member List.not_mem_nil

/-- A change of the proposer starts no transfer. -/
theorem Untransferred.withProposer (untransferred : Untransferred node)
    (proposer : PaxProposer) : Untransferred (PaxProposer.withProposer node proposer) :=
  untransferred.keepLearner rfl rfl (Node.adds_of_eq rfl)

/-- A promise acknowledgement starts no transfer. -/
theorem Untransferred.handleProposeAck (untransferred : Untransferred node)
    (message : PaxMessage) : Untransferred (PaxProposer.handleProposeAck node message) := by
  by_cases discarded : PaxProposer.Discards .kPropose node message
  · rw [PaxProposer.handleProposeAck_discarded node message discarded]
    exact untransferred
  · by_cases majority : PaxProposer.ObservesMajority node message
    · rw [PaxProposer.handleProposeAck_majority node message discarded majority]
      exact (untransferred.withProposer _).propose
    · rw [PaxProposer.handleProposeAck_counted node message discarded majority]
      exact untransferred.relaunch _ _ _ message

/-- An accept acknowledgement starts no transfer, if the call it re-enters with does not. -/
theorem Untransferred.handleAcceptAck (untransferred : Untransferred node)
    (free : node.blocked = false) (process : Node → PaxMessage → Node) (message : PaxMessage)
    (processed : ∀ inner chosen, Untransferred inner → inner.blocked = false →
      chosen.messageType = .valueChosen → Untransferred (process inner chosen)) :
    Untransferred (PaxProposer.handleAcceptAck process node message) := by
  by_cases discarded : PaxProposer.Discards .kAccept node message
  · rw [PaxProposer.handleAcceptAck_discarded process node message discarded]
    exact untransferred
  · by_cases majority : (PaxProposer.countAcceptAck node message).proposalCounter.isMajorityAccepted
        node.options = true
    · rw [PaxProposer.handleAcceptAck_majority process node message discarded majority]
      exact processed _ _ (untransferred.withProposer _) free rfl
    · rw [PaxProposer.handleAcceptAck_counted process node message discarded majority]
      exact untransferred.relaunch _ _ _ message

/-- The acceptor starts no transfer. -/
theorem Untransferred.acceptor (untransferred : Untransferred node) (message : PaxMessage) :
    Untransferred (PaxAcceptor.handleMessage node message) := by
  have acknowledges (ack : PaxMessage) (kind : ack.messageType = PaxAcceptor.ackType message) :
      NoTransfer ack := by
    unfold PaxAcceptor.ackType at kind
    split at kind
    · exact noTransfer_of_type .acceptAck kind (by decide) (by decide)
    · exact noTransfer_of_type .proposeAck kind (by decide) (by decide)
  by_cases request : PaxAcceptor.IsRequest message
  · by_cases above : PaxAcceptor.promisedPair node.acceptor < PaxAcceptor.requestPair message
    · rw [PaxAcceptor.handleMessage_granted node message request above]
      refine untransferred.keepLearner rfl rfl ⟨_, rfl, fun call member => ?_⟩
      rcases List.mem_pair.mp member with rfl | rfl
      · trivial
      · exact acknowledges _ (PaxAcceptor.grantedAck_messageType node message)
    · rw [PaxAcceptor.handleMessage_refused node message request above]
      refine untransferred.keepLearner rfl rfl ⟨_, rfl, fun call member => ?_⟩
      rw [List.mem_singleton.mp member]
      exact acknowledges _ rfl
  · rw [PaxAcceptor.handleMessage_other node message request]
    exact untransferred

/-- Learning from others starts no transfer. -/
theorem Untransferred.learnFromOthers (untransferred : Untransferred node)
    (message : PaxMessage) : Untransferred (PaxLearner.learnFromOthers node message) := by
  by_cases current : message.instanceId = node.instanceId
  · rw [PaxLearner.learnFromOthers_current node message current]
    exact untransferred.keep rfl rfl rfl rfl ⟨_, rfl, by simp [NoTransferCall]⟩
  · rw [PaxLearner.learnFromOthers_outdated node message current]
    exact untransferred.keepLearner rfl rfl (Node.adds_record _ _ trivial)

/-- A published value starts no transfer. -/
theorem Untransferred.handleOthersPublish (untransferred : Untransferred node)
    (message : PaxMessage) : Untransferred (PaxLearner.handleOthersPublish node message) := by
  by_cases passes : PaxLearner.PassesPublish node message
  · rw [PaxLearner.handleOthersPublish_passed node message passes]
    exact untransferred.learnFromOthers message
  · rw [PaxLearner.handleOthersPublish_stopped node message passes]
    exact untransferred

/-- The node's own notification starts no transfer. -/
theorem Untransferred.handleSenderPublish (untransferred : Untransferred node)
    (message : PaxMessage) : Untransferred (PaxLearner.handleSenderPublish node message) := by
  have learned : Untransferred (PaxLearner.learnFromSelf node message) := by
    by_cases passes : PaxLearner.PassesSelf node message
    · rw [PaxLearner.learnFromSelf_passed node message passes]
      exact untransferred.keep rfl rfl rfl rfl ⟨_, rfl, by simp [NoTransferCall]⟩
    · rw [PaxLearner.learnFromSelf_stopped node message passes]
      exact untransferred
  exact learned.keepLearner rfl rfl (Node.adds_record _ _
    (noTransfer_of_type .valueChosenBroadcast rfl (by decide) (by decide)))

/-- The answer to a question is no part of a transfer. -/
theorem noTransfer_answer (node : Node) (message : PaxMessage) :
    NoTransfer (PaxLearner.shallILearnAnswer node message) := by
  by_cases behind : message.instanceId + 1 = node.instanceId
  · rw [PaxLearner.shallILearnAnswer_behind node message behind]
    exact noTransfer_of_type .learnerValueSend rfl (by decide) (by decide)
  · rw [PaxLearner.shallILearnAnswer_other node message behind]
    exact noTransfer_of_type .tellInstanceId rfl (by decide) (by decide)

/-- A question starts no transfer. -/
theorem Untransferred.handleShallILearn (untransferred : Untransferred node)
    (message : PaxMessage) : Untransferred (PaxLearner.handleShallILearn node message) := by
  obtain ⟨highest, answered⟩ := PaxLearner.handleShallILearn_eq node message
  rw [answered]
  refine untransferred.keep rfl rfl rfl rfl ⟨_, rfl, fun call member => ?_⟩
  rw [List.mem_singleton.mp member]
  exact noTransfer_answer node message

/-- Without a job an acknowledgement is ignored. -/
theorem Untransferred.handleValueAck_eq (untransferred : Untransferred node)
    (message : PaxMessage) : PaxLearner.handleValueAck node message = node := by
  unfold PaxLearner.handleValueAck
  exact if_pos (.inl (by simp [untransferred.stale]))

/-- The answer to a question starts no transfer, though it may block the thread. -/
theorem Untransferred.handleTellNewInstanceId (untransferred : Untransferred node)
    (free : node.blocked = false) (message : PaxMessage) :
    Untransferred (PaxLearner.handleTellNewInstanceId node message) := by
  have unlocked := untransferred.unlocked free
  by_cases locks : PaxLearner.LocksOut node message
  · obtain ⟨highest, locked⟩ :=
      PaxLearner.handleTellNewInstanceId_locked node message locks unlocked
    rw [locked]
    exact ⟨untransferred.stale, untransferred.waiting, fun held => absurd held (by simp),
      untransferred.calls⟩
  · obtain ⟨highest, passed⟩ :=
      PaxLearner.handleTellNewInstanceId_passed node message locks unlocked free
    rw [passed]
    exact untransferred.keep rfl rfl rfl rfl (Node.adds_of_eq rfl)

/-- The learner starts no transfer. -/
theorem Untransferred.learner (untransferred : Untransferred node) (free : node.blocked = false)
    (message : PaxMessage) (noTransfer : NoTransfer message) :
    Untransferred (PaxLearner.handleMessage node message) := by
  unfold PaxLearner.handleMessage
  cases kind : message.messageType with
  | valueChosen => exact (untransferred.handleSenderPublish message).handleOthersPublish message
  | learnerValueSend => exact untransferred.handleOthersPublish message
  | valueChosenBroadcast => exact untransferred.handleOthersPublish message
  | shallILearn => exact untransferred.handleShallILearn message
  | confirmLearn => exact absurd kind noTransfer.1
  | learnerValueSync => exact absurd kind noTransfer.2
  | syncValueAck =>
    rw [untransferred.handleValueAck_eq message]
    exact untransferred
  | tellInstanceId => exact untransferred.handleTellNewInstanceId free message
  | _ => exact untransferred

/-- The end of the controller's handler leaves a node that rests. -/
theorem Untransferred.finish (untransferred : Untransferred node) :
    Resting (PaxController.finish node) := by
  cases blocked : node.blocked with
  | true =>
    rw [PaxController.finish_blocked node blocked]
    exact ⟨untransferred, fun free => absurd (blocked.symm.trans free) (by simp)⟩
  | false =>
    cases learned : node.learner.learnerState.learned with
    | true =>
      rw [PaxController.finish_learned node blocked learned]
      refine ⟨untransferred.keep rfl rfl rfl rfl ⟨_, rfl, ?_⟩, fun _ => rfl⟩
      simp [PaxController.finalCalls, NoTransferCall]
    | false =>
      rw [PaxController.finish_unlearned node learned]
      exact ⟨untransferred, fun _ => learned⟩

/-- The routing starts no transfer, if the call it re-enters with does not. -/
theorem Untransferred.dispatch (untransferred : Untransferred node) (free : node.blocked = false)
    (routing : Routing) (process : Node → PaxMessage → Node) (message : PaxMessage)
    (noTransfer : NoTransfer message)
    (processed : message.messageType ≠ .valueChosen → ∀ inner chosen, Untransferred inner →
      inner.blocked = false → chosen.messageType = .valueChosen →
      Untransferred (process inner chosen)) :
    Untransferred (PaxController.dispatch routing process node message) := by
  unfold PaxController.dispatch
  split
  · exact untransferred.learner free message noTransfer
  · split
    · unfold PaxProposer.handleMessage
      split
      · exact untransferred.handleProposeAck message
      · rename_i kind
        exact untransferred.handleAcceptAck free process message (processed (by simp [kind]))
      · exact untransferred
    · split
      · exact untransferred.acceptor message
      · exact untransferred

/-- The re-entrant call starts no transfer. -/
theorem Untransferred.processChosenValue (untransferred : Untransferred node)
    (free : node.blocked = false) (routing : Routing) (message : PaxMessage)
    (chosen : message.messageType = .valueChosen) :
    Untransferred (PaxController.processChosenValue routing node message) := by
  unfold PaxController.processChosenValue PaxController.handleMessageBody
  split
  · exact untransferred
  · have noTransfer := noTransfer_of_type .valueChosen chosen (by decide) (by decide)
    have dispatched := untransferred.dispatch free routing (fun node _ => node) message noTransfer
      fun other => absurd chosen other
    exact dispatched.finish.toUntransferred

/-- The controller leaves a node that rests. -/
theorem Resting.handleMessage (resting : Resting node) (free : node.blocked = false)
    (routing : Routing) (message : PaxMessage) (noTransfer : NoTransfer message) :
    Resting (PaxController.handleMessage routing node message) := by
  unfold PaxController.handleMessage PaxController.handleMessageBody
  split
  · exact resting
  · have dispatched := resting.toUntransferred.dispatch free routing
      (PaxController.processChosenValue routing) message noTransfer
      fun _ inner chosen untransferred innerFree kind =>
        untransferred.processChosenValue innerFree routing chosen kind
    exact dispatched.finish

/-- A step that leaves the learner's value as it is. -/
theorem Resting.keep {after : Node} (resting : Resting node) (untransferred : Untransferred after)
    (learnerState : after.learner.learnerState = node.learner.learnerState)
    (blocked : after.blocked = node.blocked) : Resting after :=
  ⟨untransferred, fun free => learnerState ▸ resting.unlearned (blocked.symm.trans free)⟩

/-- A new value starts no transfer. -/
theorem Resting.newValue (resting : Resting node) (flushed : Option LogValue)
    (timeout : Millisec) : Resting (PaxProposer.newValue node flushed timeout) := by
  cases flushed with
  | none => exact resting
  | some value =>
    let state := node.proposer.proposerState
    let named := { node.proposer with
      proposerState := if state.logValue.isEmpty then state.setLogValue value else state }
    have flush : Untransferred (node.record (.flush node.instanceId value)) :=
      resting.keepLearner rfl rfl (Node.adds_record _ _ trivial)
    have timer : Untransferred
        ((PaxProposer.withProposer (node.record (.flush node.instanceId value)) named).publish
          .newValueTimeout .newValueTimeoutCallback timeout) :=
      (flush.withProposer named).keepLearner rfl rfl (Node.adds_record _ _ trivial)
    exact resting.keep timer.propose rfl rfl

/-- A timer starts no transfer, though it may block the thread. -/
theorem Resting.fire (resting : Resting node) (free : node.blocked = false)
    (callback : TimerCallback) : Resting (callback.fire node) := by
  cases callback with
  | proposeTimeoutCallback armed =>
    simp only [TimerCallback.fire, PaxProposer.proposeTimeoutCallback]
    split
    · exact resting
    · exact resting.keep resting.toUntransferred.propose rfl rfl
  | newValueTimeoutCallback =>
    simp only [TimerCallback.fire, PaxProposer.newValueTimeoutCallback]
    split
    · exact resting
    · refine resting.keep (resting.keepLearner rfl rfl ⟨[.removeEvent .proposeTimeout,
        .removeEvent .acceptTimeout, .writeResult [] node.instanceId .valueTimeout], ?_, ?_⟩) rfl rfl
      · simp [Node.withdraw, Node.record, PaxProposer.withProposer]
      · simp [NoTransferCall]
  | shallLearn =>
    have asks := PaxLearner.shallLearn_free node free (resting.unlocked free)
    rw [TimerCallback.fire, asks]
    refine resting.keep (resting.toUntransferred.keep rfl rfl rfl rfl ⟨_, rfl, ?_⟩) rfl rfl
    intro call member
    rcases List.mem_pair.mp member with rfl | rfl
    · trivial
    · exact noTransfer_of_type .shallILearn rfl (by decide) (by decide)

end Steps

namespace Cluster

/-- A step to a resting node posts no message of a transfer. -/
theorem keeps_resting {node : Node} (step : Node → Node) (resting : Resting (step node)) :
    Keeps Resting NoTransfer (perform step node) :=
  keeps_perform step resting resting.calls (fun _ _ fine => fine) fun _ fine => fine

/-- **No transfer is started.** A node among others keeps resting, whatever its routing, and
sends no message of a transfer. -/
theorem resting_preserves (routing : Routing) :
    (party routing).Preserves Resting NoTransfer where
  receive node message resting noTransfer :=
    keeps_resting _ (onMainThread_cases _ resting fun free =>
      resting.handleMessage free routing message noTransfer)
  act node activity resting := by
    refine keeps_resting _ ?_
    cases activity with
    | newValue flushed timeout =>
      exact onMainThread_cases (PaxProposer.newValue · flushed timeout) resting fun _ =>
        resting.newValue flushed timeout
    | timer callback =>
      exact onMainThread_cases callback.fire resting fun free => resting.fire free callback
    | sending tooSlow =>
      show Resting (PaxLearner.sendingStep node tooSlow)
      rw [PaxLearner.sendingStep_idle node tooSlow resting.stale resting.waiting]
      exact resting

/-- In every run of a cluster over the lossy network, from nodes that rest, all nodes rest and
no message of a transfer is ever sent. -/
theorem no_transfer (routing : Routing) (members : List NodeId) {air air' : Air NodeId Node PaxMessage}
    (sound : air.Sound Resting NoTransfer)
    (run : Relation.ReflTransGen (LossyStep (party routing) members) air air') :
    air'.Sound Resting NoTransfer :=
  (resting_preserves routing).lossy sound run

/-- **Between two calls a node is at rest.** In every run of a cluster that starts fresh, over the
lossy network and for every routing, no message that is sent starts a transfer or is a part of one,
the sending thread of every node waits for a job that nobody prepares, and a node whose main thread
has not locked itself out is at rest. -/
theorem nodes_at_rest (routing : Routing) (deployment : Deployment) (instanceId : InstanceId)
    {air : Air NodeId Node PaxMessage}
    (run : Relation.ReflTransGen (LossyStep (party routing) deployment.members)
      ⟨deployment.start instanceId, []⟩ air) :
    (∀ post ∈ air.sent, NoTransfer post.message) ∧
      ∀ id, ((air.states id).learner.jobStatus = .kStale ∧
          (air.states id).learner.sendingPoint = .waitForReady) ∧
        ((air.states id).blocked = false → AtRest (air.states id)) := by
  have fresh : Air.Sound Resting NoTransfer ⟨deployment.start instanceId, []⟩ :=
    ⟨fun id => resting_fresh (deployment.options id) instanceId,
      fun _ member => absurd member List.not_mem_nil⟩
  obtain ⟨resting, sent⟩ := no_transfer routing deployment.members fresh run
  exact ⟨sent, fun id => ⟨⟨(resting id).stale, (resting id).waiting⟩, (resting id).atRest⟩⟩

/-- Two nodes of which both are a majority. -/
def couple : Deployment := ⟨[8, 9], by decide, by decide, 1 / 2, 0⟩

/-- The couple at the start. -/
def coupleStart : Air NodeId Node PaxMessage := ⟨couple.start 0, []⟩

/-- The question of node nine. -/
def coupleQuestion : PaxMessage := { PaxMessage.new 9 .shallILearn with instanceId := 0 }

/-- The answer of node eight. -/
def coupleAnswer : PaxMessage :=
  { PaxMessage.new 8 .tellInstanceId with instanceId := 0, leaderInstanceId := 0 }

/-- Node nine has asked. -/
def coupleAsked : Air NodeId Node PaxMessage :=
  coupleStart.react 9
    ((party .handlers).act (coupleStart.states 9) (.timer .shallLearn))

/-- Node eight has answered. -/
def coupleAnswered : Air NodeId Node PaxMessage :=
  coupleAsked.react 8 ((party .handlers).receive (coupleAsked.states 8) coupleQuestion)

/-- Node nine has been told. -/
def coupleTold : Air NodeId Node PaxMessage :=
  coupleAnswered.react 9 ((party .handlers).receive (coupleAnswered.states 9) coupleAnswer)

/-- Node nine has locked itself out where it was to begin a transfer, and node eight is at rest. -/
theorem nodes_at_rest_locked :
    (coupleTold.states 9).blocked = true ∧ AtRest (coupleTold.states 8) ∧
      ∀ post ∈ coupleTold.sent, NoTransfer post.message := by
  have ask : LossyStep (party .handlers) couple.members coupleStart coupleAsked :=
    LossyStep.act _ 9 (by decide) (Activity.timer .shallLearn)
  have asked : .broadcast coupleQuestion ∈ coupleAsked.sent := by decide +kernel
  have answer : LossyStep (party .handlers) couple.members coupleAsked coupleAnswered :=
    .receive coupleAsked 8 (by decide) (.broadcast coupleQuestion) asked trivial
  have answered : .unicast 9 coupleAnswer ∈ coupleAnswered.sent := by decide +kernel
  have tell : LossyStep (party .handlers) couple.members coupleAnswered coupleTold :=
    .receive coupleAnswered 9 (by decide) (.unicast 9 coupleAnswer) answered rfl
  obtain ⟨sent, nodes⟩ := nodes_at_rest .handlers couple 0
    (((Relation.ReflTransGen.single ask).tail answer).tail tell)
  exact ⟨by decide +kernel, (nodes 8).2 (by decide +kernel), sent⟩

end Cluster

end Paxosme
