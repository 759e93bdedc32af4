import Paxosme.Core.Acceptor
import Paxosme.Core.Proposer
import Paxosme.Core.Learner

/-!
# The controller

`PaxController::HandleMessage` routes a message to one player by four tests on its type and
then executes a learned value. The tests are a parameter, `Routing`, with the tests of
`controller.cpp` as `Routing.source` and the assignment that the switches of the players
themselves make as `Routing.handlers`.

The handler is re-entered once: a majority of accepts calls it for a message of type
`valueChosen`, which the proposer ignores. So it is written as one body applied to itself,
and `handleMessage_reentrant` shows that the inner call is the handler again.
-/

namespace Paxosme

/-- The four tests of `controller.cpp` on a message type. -/
structure Routing where
  /-- `MessagePlaceHolder`. -/
  messagePlaceHolder : MessageType → Bool
  /-- `MessageForLearner`. -/
  messageForLearner : MessageType → Bool
  /-- `MessageForProposer`. -/
  messageForProposer : MessageType → Bool
  /-- `MessageForAcceptor`. -/
  messageForAcceptor : MessageType → Bool

/-- The tests as the source computes them. -/
def Routing.source : Routing where
  messagePlaceHolder messageType := messageType.value >>> 6 == 0x1
  messageForLearner messageType := messageType.value >>> 5 == 0x1
  messageForProposer messageType := messageType.value >>> 4 == 0x1
  messageForAcceptor messageType := messageType.value >>> 3 == 0x1

/-- Every message goes to the player whose `HandleMessage` has a case for its type. -/
def Routing.handlers : Routing where
  messagePlaceHolder messageType := messageType == .newValueCommitted
  messageForLearner messageType :=
    [.valueChosen, .shallILearn, .confirmLearn, .learnerValueSend, .learnerValueSync,
      .syncValueAck, .valueChosenBroadcast, .tellInstanceId].contains messageType
  messageForProposer messageType := [.proposeAck, .acceptAck].contains messageType
  messageForAcceptor messageType := [.proposeBroadcast, .acceptBroadcast].contains messageType

namespace PaxController

/-- `PaxController::InstanceDone`. -/
def instanceDone (node : Node) : Node :=
  PaxProposer.instanceDone node node.instanceId node.learner.learnerState.logValue

/-- `PaxController::NewInstance`. -/
def newInstance (node : Node) : Node :=
  let node := { node with instanceId := node.instanceId + 1 }
  PaxLearner.newInstance (PaxProposer.newInstance (PaxAcceptor.newInstance node))

/-- The end of `PaxController::HandleMessage`: a learned value is executed and the instance
is left. A blocked thread does not come here. -/
def finish (node : Node) : Node :=
  if node.blocked then node
  else if node.learner.learnerState.learned then
    let node := node.record (.execute node.instanceId node.learner.learnerState.logValue)
    newInstance (instanceDone node)
  else node

/-- The routing of `PaxController::HandleMessage`, given the call it makes when it is
re-entered. -/
def dispatch (routing : Routing) (processChosenValue : Node → PaxMessage → Node) (node : Node)
    (message : PaxMessage) : Node :=
  if routing.messageForLearner message.messageType then PaxLearner.handleMessage node message
  else if routing.messageForProposer message.messageType then
    PaxProposer.handleMessage processChosenValue node message
  else if routing.messageForAcceptor message.messageType then
    PaxAcceptor.handleMessage node message
  else node

/-- The body of `PaxController::HandleMessage`. -/
def handleMessageBody (routing : Routing) (processChosenValue : Node → PaxMessage → Node)
    (node : Node) (message : PaxMessage) : Node :=
  if routing.messagePlaceHolder message.messageType then node
  else finish (dispatch routing processChosenValue node message)

/-- The re-entrant call: no handler of a chosen value re-enters it a second time. -/
def processChosenValue (routing : Routing) : Node → PaxMessage → Node :=
  handleMessageBody routing fun node _ => node

/-- `PaxController::HandleMessage`. -/
def handleMessage (routing : Routing) : Node → PaxMessage → Node :=
  handleMessageBody routing (processChosenValue routing)

/-- The proposer re-enters the controller for chosen values alone, so two continuations that
agree on them give one result. -/
theorem handleMessageBody_congr (routing : Routing) (first second : Node → PaxMessage → Node)
    (agree : ∀ node message, message.messageType = .valueChosen →
      first node message = second node message) (node : Node) (message : PaxMessage) :
    handleMessageBody routing first node message =
      handleMessageBody routing second node message := by
  have proposer : PaxProposer.handleMessage first node message =
      PaxProposer.handleMessage second node message := by
    unfold PaxProposer.handleMessage
    split
    · rfl
    · unfold PaxProposer.handleAcceptAck
      simp only [agree _ (PaxProposer.chosenMessage _ _) rfl]
    · rfl
  simp only [handleMessageBody, dispatch, proposer]

/-- On a chosen value the body does not use its continuation. -/
theorem handleMessageBody_chosen (routing : Routing) (first second : Node → PaxMessage → Node)
    (node : Node) (message : PaxMessage) (chosen : message.messageType = .valueChosen) :
    handleMessageBody routing first node message =
      handleMessageBody routing second node message := by
  simp only [handleMessageBody, dispatch, PaxProposer.handleMessage, chosen]

/-- **The inner call is the handler.** `handleMessage` satisfies the recursive equation of the
source, in which `ProcessChosenValue` calls `PaxController::HandleMessage`. -/
theorem handleMessage_reentrant (routing : Routing) (node : Node) (message : PaxMessage) :
    handleMessage routing node message =
      handleMessageBody routing (handleMessage routing) node message :=
  handleMessageBody_congr routing _ _
    (fun inner chosen isChosen => handleMessageBody_chosen routing _ _ inner chosen isChosen)
    node message

/-- The source's tests send requests to the acceptor and drop every other message. -/
theorem source_dispatch (process : Node → PaxMessage → Node) (node : Node)
    (message : PaxMessage) :
    dispatch .source process node message = PaxAcceptor.handleMessage node message := by
  unfold dispatch PaxAcceptor.handleMessage
  cases kind : message.messageType with
  | proposeBroadcast => rfl
  | acceptBroadcast => rfl
  | _ => rfl

/-- A blocked thread does not reach the end of the handler. -/
theorem finish_blocked (node : Node) (blocked : node.blocked = true) : finish node = node :=
  if_pos blocked

/-- Without a learned value nothing is executed. -/
theorem finish_unlearned (node : Node) (unlearned : node.learner.learnerState.learned = false) :
    finish node = node := by
  unfold finish
  rw [unlearned, if_neg Bool.false_ne_true, ite_self]

/-- The calls with which an instance ends. -/
def finalCalls (node : Node) : List Call :=
  [.execute node.instanceId node.learner.learnerState.logValue,
    .writeResult node.learner.learnerState.logValue node.instanceId .valueAccepted,
    .removeEvent .proposeTimeout, .removeEvent .acceptTimeout]

/-- A learned value is executed, and the next instance starts with its players reset. -/
theorem finish_learned (node : Node) (free : node.blocked = false)
    (learned : node.learner.learnerState.learned = true) :
    finish node =
      { node with
        instanceId := node.instanceId + 1
        proposer :=
          { status := .kNone
            proposalCounter := {}
            proposerState := node.proposer.proposerState.reset }
        acceptor := {}
        learner := { node.learner with learnerState := {} }
        calls := node.calls ++ finalCalls node } := by
  rw [finish, free, learned, if_neg Bool.false_ne_true, if_pos rfl]
  simp [newInstance, instanceDone, PaxProposer.instanceDone, PaxProposer.newInstance,
    PaxAcceptor.newInstance, PaxLearner.newInstance, PaxLearner.withLearner, finalCalls,
    PaxProposer.withProposer, Node.withdraw, Node.record, AcceptorState.reset,
    ProposalCounter.reset, free]

/-- The end of the handler adds the calls with which an instance ends, or none. -/
theorem finish_adds (node : Node) :
    Node.Adds (· ∈ finalCalls node) node (finish node) := by
  cases blocked : node.blocked with
  | true => exact Node.adds_of_eq (by rw [finish_blocked node blocked])
  | false =>
    cases learned : node.learner.learnerState.learned with
    | true => exact ⟨_, by rw [finish_learned node blocked learned], fun _ member => member⟩
    | false => exact Node.adds_of_eq (by rw [finish_unlearned node learned])

/-- The end of the handler does nothing, or it clears the status of the proposer. -/
theorem finish_or_cleared (node : Node) :
    finish node = node ∨ (finish node).proposer.status = .kNone := by
  cases blocked : node.blocked with
  | true => exact .inl (finish_blocked node blocked)
  | false =>
    cases learned : node.learner.learnerState.learned with
    | true => exact .inr (by rw [finish_learned node blocked learned])
    | false => exact .inl (finish_unlearned node learned)

/-- The end of the handler keeps the status of the proposer, or clears it with the instance. -/
theorem finish_status (node : Node) :
    (finish node).proposer.status = node.proposer.status ∨
      (finish node).proposer.status = .kNone :=
  (finish_or_cleared node).imp_left fun same => by rw [same]

/-- No player changes the proposer on a chosen value. -/
theorem dispatch_chosen (routing : Routing) (process : Node → PaxMessage → Node) (node : Node)
    (message : PaxMessage) (chosen : message.messageType = .valueChosen) :
    (dispatch routing process node message).proposer = node.proposer := by
  have learner := PaxLearner.besides_handleMessage node message
  simp only [PaxLearner.besides, Prod.mk.injEq] at learner
  unfold dispatch
  split
  · exact learner.2.2.1
  · split
    · simp only [PaxProposer.handleMessage, chosen]
    · split
      · simp only [PaxAcceptor.handleMessage, chosen]
      · rfl

/-- The re-entrant call on a chosen value keeps the status of the proposer or clears it. -/
theorem processChosenValue_status (routing : Routing) (node : Node) (message : PaxMessage)
    (chosen : message.messageType = .valueChosen) :
    (processChosenValue routing node message).proposer.status = node.proposer.status ∨
      (processChosenValue routing node message).proposer.status = .kNone := by
  unfold processChosenValue handleMessageBody
  split
  · exact .inl rfl
  · have kept := finish_status (dispatch routing (fun node _ => node) node message)
    rw [dispatch_chosen routing _ node message chosen] at kept
    exact kept

/-- No type is a placeholder for the source's test. -/
theorem source_placeHolder (messageType : MessageType) :
    Routing.source.messagePlaceHolder messageType = false := by
  cases messageType with
  | _ => rfl

end PaxController

/-- A timer's callback runs. -/
def TimerCallback.fire (callback : TimerCallback) (node : Node) : Node :=
  match callback with
  | .proposeTimeoutCallback instanceId => PaxProposer.proposeTimeoutCallback node instanceId
  | .newValueTimeoutCallback => PaxProposer.newValueTimeoutCallback node
  | .shallLearn => PaxLearner.shallLearn node

end Paxosme
