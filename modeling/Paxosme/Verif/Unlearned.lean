import Paxosme.Verif.Preparing
import Paxosme.Core.Cluster

/-!
# Nothing is learned

A cluster that starts fresh never leaves the prepare phase: no accept request is sent, so no
value is chosen and no learner has a value to hand on. The invariant says this of one node,
together with the few kinds of messages that such nodes send. It holds under every routing,
since a player ignores the messages that are not its own.
-/

namespace Paxosme

open Delivery

/-- A message between nodes that have learned nothing: the two of the prepare phase, a question
about the current instance and its answer. -/
def QuietMessage (instanceId : InstanceId) (message : PaxMessage) : Prop :=
  message.messageType = .proposeBroadcast ∨ message.messageType = .proposeAck ∨
    message.messageType = .tellInstanceId ∨
    message.messageType = .shallILearn ∧ message.instanceId = instanceId

/-- A call that executes and learns nothing and sends quiet messages only. -/
def QuietCall (instanceId : InstanceId) : Call → Prop
  | .send _ message | .broadcast message => QuietMessage instanceId message
  | .execute _ _ | .learnNew _ _ _ _ => False
  | _ => True

/-- A node that has stayed in an instance without accepting or learning. -/
structure Unlearned (instanceId : InstanceId) (node : Node) : Prop where
  /-- The instance has not been left. -/
  instanceKept : node.instanceId = instanceId
  /-- The proposer is not in the accept phase. -/
  status : node.proposer.status ≠ .kAccept
  /-- The learner has no value. -/
  learned : node.learner.learnerState.learned = false
  /-- No sending job is prepared. -/
  jobStatus : node.learner.jobStatus = .kStale
  /-- The sending thread waits for a job. -/
  sendingPoint : node.learner.sendingPoint = .waitForReady
  /-- All calls are quiet. -/
  calls : ∀ call ∈ node.calls, QuietCall instanceId call

/-- A fresh node. -/
theorem unlearned_fresh (options : PaxosOptions) (instanceId : InstanceId) :
    Unlearned instanceId (Node.fresh options instanceId) :=
  ⟨rfl, nofun, rfl, rfl, rfl, fun _ member => absurd member List.not_mem_nil⟩

section Steps

variable {instanceId : InstanceId} {node : Node}

/-- A step that keeps the instance and the learner's progress, does not accept and makes
quiet calls. -/
theorem Unlearned.step {after : Node} (unlearned : Unlearned instanceId node)
    (instanceKept : after.instanceId = node.instanceId)
    (status : after.proposer.status ≠ .kAccept)
    (learnerState : after.learner.learnerState = node.learner.learnerState)
    (jobStatus : after.learner.jobStatus = node.learner.jobStatus)
    (sendingPoint : after.learner.sendingPoint = node.learner.sendingPoint)
    (later : List Call) (appended : after.calls = node.calls ++ later)
    (quiet : ∀ call ∈ later, QuietCall instanceId call) : Unlearned instanceId after where
  instanceKept := instanceKept.trans unlearned.instanceKept
  status := status
  learned := learnerState ▸ unlearned.learned
  jobStatus := jobStatus.trans unlearned.jobStatus
  sendingPoint := sendingPoint.trans unlearned.sendingPoint
  calls call member := by
    rw [appended] at member
    rcases List.mem_append.mp member with old | new
    · exact unlearned.calls call old
    · exact quiet call new

/-- One more quiet call. -/
theorem Unlearned.record (unlearned : Unlearned instanceId node) (call : Call)
    (quiet : QuietCall instanceId call) : Unlearned instanceId (node.record call) := by
  refine unlearned.step rfl unlearned.status rfl rfl rfl [call] rfl ?_
  intro made member
  rw [List.mem_singleton.mp member]
  exact quiet

/-- A change of flags that neither learns nor prepares a job. -/
theorem Unlearned.flags {after : Node} (unlearned : Unlearned instanceId node)
    (instanceKept : after.instanceId = node.instanceId)
    (proposer : after.proposer = node.proposer)
    (learnerState : after.learner.learnerState = node.learner.learnerState)
    (jobStatus : after.learner.jobStatus = node.learner.jobStatus)
    (sendingPoint : after.learner.sendingPoint = node.learner.sendingPoint)
    (calls : after.calls = node.calls) : Unlearned instanceId after :=
  unlearned.step instanceKept (proposer ▸ unlearned.status) learnerState jobStatus sendingPoint []
    (calls.trans (List.append_nil _).symm) fun _ member => absurd member List.not_mem_nil

/-- The proposer keeps a node unlearned while it prepares. -/
theorem Unlearned.prepares {after : Node} (unlearned : Unlearned instanceId node)
    (step : PaxProposer.Prepares node after) : Unlearned instanceId after := by
  have learner : after.learner = node.learner := by
    have moved := congrArg Node.learner step.frame
    exact moved
  obtain ⟨later, appended, ok⟩ := step.calls
  apply unlearned.step step.instanceId step.status (by rw [learner]) (by rw [learner])
    (by rw [learner]) later appended
  intro call member
  have prepare := ok call member
  cases call with
  | broadcast message => exact .inl prepare.1
  | send => exact prepare.elim
  | execute => exact prepare.elim
  | learnNew => exact prepare.elim
  | _ => trivial

/-- The acceptor keeps a node unlearned: of the quiet messages it answers prepare requests. -/
theorem Unlearned.acceptor (unlearned : Unlearned instanceId node) (message : PaxMessage)
    (quiet : QuietMessage instanceId message) :
    Unlearned instanceId (PaxAcceptor.handleMessage node message) := by
  by_cases request : PaxAcceptor.IsRequest message
  · have propose : message.messageType = .proposeBroadcast := by
      rcases request with propose | accept
      · exact propose
      · simp [QuietMessage, accept] at quiet
    have ack : PaxAcceptor.ackType message = .proposeAck := by
      rw [PaxAcceptor.ackType, propose]
    by_cases above : PaxAcceptor.promisedPair node.acceptor < PaxAcceptor.requestPair message
    · rw [PaxAcceptor.handleMessage_granted node message request above]
      refine unlearned.step rfl unlearned.status rfl rfl rfl _ rfl ?_
      intro call member
      rcases List.mem_pair.mp member with rfl | rfl
      · trivial
      · exact .inr (.inl ((PaxAcceptor.grantedAck_messageType node message).trans ack))
    · rw [PaxAcceptor.handleMessage_refused node message request above]
      refine unlearned.step rfl unlearned.status rfl rfl rfl _ rfl ?_
      intro call member
      rw [List.mem_singleton.mp member]
      exact .inr (.inl ack)
  · rw [PaxAcceptor.handleMessage_other node message request]
    exact unlearned

/-- Noting a higher instance keeps a node unlearned. -/
theorem Unlearned.setPossibleHigherInstanceId (unlearned : Unlearned instanceId node)
    (higher : InstanceId) :
    Unlearned instanceId (PaxLearner.setPossibleHigherInstanceId node higher) := by
  unfold PaxLearner.setPossibleHigherInstanceId
  split
  · exact unlearned
  · exact unlearned.flags rfl rfl rfl rfl rfl rfl

/-- Locking keeps a node unlearned. -/
theorem Unlearned.lockFollow (unlearned : Unlearned instanceId node) :
    Unlearned instanceId (PaxLearner.lockFollow node) := by
  unfold PaxLearner.lockFollow
  split
  · exact unlearned.flags rfl rfl rfl rfl rfl rfl
  · exact unlearned.flags rfl rfl rfl rfl rfl rfl

/-- Unlocking keeps a node unlearned. -/
theorem Unlearned.unlockFollow (unlearned : Unlearned instanceId node) :
    Unlearned instanceId (PaxLearner.unlockFollow node) := by
  unfold PaxLearner.unlockFollow
  split
  · exact unlearned
  · exact unlearned.flags rfl rfl rfl rfl rfl rfl

/-- Confirming keeps a node unlearned. -/
theorem Unlearned.confirmLearn (unlearned : Unlearned instanceId node) (nodeId : NodeId) :
    Unlearned instanceId (PaxLearner.confirmLearn node nodeId) := by
  simp only [PaxLearner.confirmLearn]
  split
  · exact unlearned.lockFollow
  · have locked := unlearned.lockFollow
    apply Unlearned.unlockFollow
    exact locked.flags rfl rfl rfl rfl rfl rfl

/-- A question about the current instance is answered with the instance alone. -/
theorem Unlearned.handleShallILearn (unlearned : Unlearned instanceId node)
    (message : PaxMessage) (current : message.instanceId = instanceId) :
    Unlearned instanceId (PaxLearner.handleShallILearn node message) := by
  have noted := unlearned.setPossibleHigherInstanceId message.instanceId
  have behind : message.instanceId + 1 ≠
      (PaxLearner.setPossibleHigherInstanceId node message.instanceId).instanceId := by
    rw [noted.instanceKept, current]
    exact WordOrder.add_one_ne instanceId
  simp only [PaxLearner.handleShallILearn]
  rw [if_pos behind]
  exact noted.record _ (.inr (.inr (.inl rfl)))

/-- The answer at most starts to confirm, or blocks the thread. -/
theorem Unlearned.handleTellNewInstanceId (unlearned : Unlearned instanceId node)
    (message : PaxMessage) :
    Unlearned instanceId (PaxLearner.handleTellNewInstanceId node message) := by
  have noted := unlearned.setPossibleHigherInstanceId message.leaderInstanceId
  simp only [PaxLearner.handleTellNewInstanceId]
  split
  · exact noted
  · split
    · exact noted
    · split
      · exact (noted.lockFollow.confirmLearn message.sender).unlockFollow
      · exact noted.lockFollow.unlockFollow

/-- The learner keeps a node unlearned on quiet messages. -/
theorem Unlearned.learner (unlearned : Unlearned instanceId node) (message : PaxMessage)
    (quiet : QuietMessage instanceId message) :
    Unlearned instanceId (PaxLearner.handleMessage node message) := by
  rcases quiet with propose | ack | tell | ⟨shall, current⟩
  · simp only [PaxLearner.handleMessage, propose]
    exact unlearned
  · simp only [PaxLearner.handleMessage, ack]
    exact unlearned
  · simp only [PaxLearner.handleMessage, tell]
    exact unlearned.handleTellNewInstanceId message
  · simp only [PaxLearner.handleMessage, shall]
    exact unlearned.handleShallILearn message current

/-- The end of the controller's handler does nothing at an unlearned node. -/
theorem Unlearned.finish_eq (unlearned : Unlearned instanceId node) :
    PaxController.finish node = node :=
  PaxController.finish_unlearned node unlearned.learned

/-- The controller keeps a node unlearned on quiet messages, whatever its routing. -/
theorem Unlearned.handleMessage (unlearned : Unlearned instanceId node) (routing : Routing)
    (message : PaxMessage) (quiet : QuietMessage instanceId message) :
    Unlearned instanceId (PaxController.handleMessage routing node message) := by
  have dispatched : Unlearned instanceId (PaxController.dispatch routing
      (PaxController.processChosenValue routing) node message) := by
    unfold PaxController.dispatch
    split
    · exact unlearned.learner message quiet
    · split
      · exact unlearned.prepares
          (PaxProposer.handleMessage_prepares _ node message unlearned.status)
      · split
        · exact unlearned.acceptor message quiet
        · exact unlearned
  unfold PaxController.handleMessage PaxController.handleMessageBody
  split
  · exact unlearned
  · rw [dispatched.finish_eq]
    exact dispatched

/-- Asking about the current instance keeps a node unlearned. -/
theorem Unlearned.ask (unlearned : Unlearned instanceId node) :
    Unlearned instanceId (node.broadCastMessage
      { PaxMessage.new node.getNodeId .shallILearn with instanceId := node.instanceId }) := by
  refine unlearned.record _ ?_
  exact Or.inr (Or.inr (Or.inr ⟨rfl, unlearned.instanceKept⟩))

/-- A timer keeps a node unlearned. -/
theorem Unlearned.fire (unlearned : Unlearned instanceId node) (callback : TimerCallback) :
    Unlearned instanceId (callback.fire node) := by
  cases callback with
  | proposeTimeoutCallback armed =>
    exact unlearned.prepares
      (PaxProposer.proposeTimeoutCallback_prepares node armed unlearned.status)
  | newValueTimeoutCallback =>
    exact unlearned.prepares (PaxProposer.newValueTimeoutCallback_prepares node unlearned.status)
  | shallLearn =>
    have locked := (unlearned.record
      (.addEvent .shallILearn .shallLearn PaxLearner.shallLearnDelay) trivial).lockFollow
    simp only [TimerCallback.fire, PaxLearner.shallLearn]
    split
    · exact locked
    · apply Unlearned.unlockFollow
      apply Unlearned.ask
      exact locked.flags rfl rfl rfl rfl rfl rfl

/-- Every activity keeps a node unlearned. -/
theorem Unlearned.activity (unlearned : Unlearned instanceId node)
    (activity : Cluster.Activity) : Unlearned instanceId (activity.run node) := by
  cases activity with
  | newValue flushed timeout =>
    have prepared := unlearned.prepares
      (PaxProposer.newValue_prepares node flushed timeout unlearned.status)
    exact Cluster.onMainThread_cases (PaxProposer.newValue · flushed timeout) unlearned
      fun _ => prepared
  | timer callback =>
    exact Cluster.onMainThread_cases callback.fire unlearned fun _ => unlearned.fire callback
  | sending tooSlow =>
    show Unlearned instanceId (PaxLearner.sendingStep node tooSlow)
    rw [PaxLearner.sendingStep_idle node tooSlow unlearned.jobStatus unlearned.sendingPoint]
    exact unlearned

end Steps

namespace Cluster

/-- A step to an unlearned node posts quiet messages. -/
theorem keeps_unlearned {instanceId : InstanceId} {node : Node} (step : Node → Node)
    (unlearned : Unlearned instanceId (step node)) :
    Keeps (Unlearned instanceId) (QuietMessage instanceId) (perform step node) :=
  keeps_perform step unlearned unlearned.calls (fun _ _ quiet => quiet) fun _ quiet => quiet

/-- **Nothing is learned.** A node among others stays unlearned, whatever its routing. -/
theorem party_preserves (routing : Routing) (instanceId : InstanceId) :
    (party routing).Preserves (Unlearned instanceId) (QuietMessage instanceId) where
  receive _ message unlearned quiet :=
    keeps_unlearned _ (onMainThread_cases _ unlearned fun _ =>
      unlearned.handleMessage routing message quiet)
  act _ activity unlearned := keeps_unlearned _ (unlearned.activity activity)

/-- The same without timers and new values. -/
theorem undisturbed_preserves (routing : Routing) (instanceId : InstanceId) :
    (undisturbed routing).Preserves (Unlearned instanceId) (QuietMessage instanceId) where
  receive := (party_preserves routing instanceId).receive
  act node tooSlow := (party_preserves routing instanceId).act node (.sending tooSlow)

end Cluster
end Paxosme
