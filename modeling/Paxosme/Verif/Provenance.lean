import Paxosme.Verif.Agreement
import Paxosme.Verif.NodeLog

/-!
# Where values come from

A value is copied from proposers to acceptors, into logs, to learners and into messages, and it is
read back from a log after a crash. None of these steps makes one up: whatever is accepted, stored,
learned, sent or executed anywhere was taken from a provider of new values by some node, was there
from the start, or is the empty value, which stands in every field that nobody sets.
-/

namespace Paxosme

open Delivery

/-- All values of a message are known. -/
def KnownMessage (known : Set LogValue) (message : PaxMessage) : Prop :=
  message.proposedLogValue ∈ known ∧ message.acceptedValue ∈ known ∧
    message.learnedValue ∈ known ∧ message.chosenValue ∈ known

/-- All values of a call are known. -/
def KnownCall (known : Set LogValue) : Call → Prop
  | .send _ message | .broadcast message => KnownMessage known message
  | .writeLog entry => entry.acceptedValue ∈ known
  | .flush _ value | .writeResult value _ _ | .execute _ value | .learnNew value _ _ _ =>
    value ∈ known
  | .addEvent _ _ _ | .removeEvent _ => True

/-- All values of a node are known. -/
structure KnownNode (known : Set LogValue) (node : Node) : Prop where
  /-- The accepted value. -/
  acceptor : node.acceptor.acceptedValue ∈ known
  /-- The value that is proposed. -/
  proposer : node.proposer.proposerState.logValue ∈ known
  /-- The learned value. -/
  learner : node.learner.learnerState.logValue ∈ known
  /-- The stored values. -/
  storage : ∀ key entry, node.storage key = some entry → entry.acceptedValue ∈ known
  /-- The values of all calls. -/
  calls : ∀ call ∈ node.calls, KnownCall known call

section Wider

variable {known wider : Set LogValue} (subset : known ⊆ wider)

include subset

/-- The values of a message are in a larger set. -/
theorem KnownMessage.mono {message : PaxMessage} (good : KnownMessage known message) :
    KnownMessage wider message :=
  ⟨subset good.1, subset good.2.1, subset good.2.2.1, subset good.2.2.2⟩

/-- The values of a call are in a larger set. -/
theorem KnownCall.mono {call : Call} (fine : KnownCall known call) : KnownCall wider call := by
  cases call with
  | send | broadcast => exact KnownMessage.mono subset fine
  | addEvent | removeEvent => trivial
  | _ => exact subset fine

/-- The values of a node are in a larger set. -/
theorem KnownNode.mono {node : Node} (holds : KnownNode known node) : KnownNode wider node where
  acceptor := subset holds.acceptor
  proposer := subset holds.proposer
  learner := subset holds.learner
  storage key entry found := subset (holds.storage key entry found)
  calls call member := (holds.calls call member).mono subset

end Wider

section KnownNodes

variable {known : Set LogValue} {node : Node}

/-- A step that keeps the values of the players and the log. -/
theorem KnownNode.step {after : Node} (holds : KnownNode known node)
    (acceptor : after.acceptor.acceptedValue ∈ known)
    (proposer : after.proposer.proposerState.logValue ∈ known)
    (learner : after.learner.learnerState.logValue ∈ known)
    (storage : after.storage = node.storage) {later : List Call}
    (appended : after.calls = node.calls ++ later) (fine : ∀ call ∈ later, KnownCall known call) :
    KnownNode known after := by
  refine ⟨acceptor, proposer, learner, storage ▸ holds.storage, fun call member => ?_⟩
  rw [appended] at member
  rcases List.mem_append.mp member with old | new
  · exact holds.calls call old
  · exact fine call new

/-- A step that makes no call. -/
theorem KnownNode.silent {after : Node} (holds : KnownNode known node)
    (acceptor : after.acceptor.acceptedValue ∈ known)
    (proposer : after.proposer.proposerState.logValue ∈ known)
    (learner : after.learner.learnerState.logValue ∈ known)
    (storage : after.storage = node.storage) (calls : after.calls = node.calls) :
    KnownNode known after :=
  ⟨acceptor, proposer, learner, storage ▸ holds.storage, calls ▸ holds.calls⟩

/-- A step that keeps the players' values. -/
theorem KnownNode.flags {after : Node} (holds : KnownNode known node)
    (acceptor : after.acceptor = node.acceptor) (proposer : after.proposer = node.proposer)
    (learner : after.learner.learnerState = node.learner.learnerState)
    (storage : after.storage = node.storage) (calls : after.calls = node.calls) :
    KnownNode known after :=
  holds.silent (acceptor ▸ holds.acceptor) (proposer ▸ holds.proposer) (learner ▸ holds.learner)
    storage calls

/-- One more call. -/
theorem KnownNode.record (holds : KnownNode known node) (call : Call)
    (fine : KnownCall known call) : KnownNode known (node.record call) :=
  holds.step holds.acceptor holds.proposer holds.learner rfl rfl fun _ member =>
    List.mem_singleton.mp member ▸ fine

/-- A record is written to the log. -/
theorem KnownNode.writeLog (holds : KnownNode known node) (entry : PaxosLogEntry)
    (fine : entry.acceptedValue ∈ known) :
    KnownNode known { node with storage := node.storage.writeLog entry } := by
  refine ⟨holds.acceptor, holds.proposer, holds.learner, fun key other found => ?_, holds.calls⟩
  have found : Function.update node.storage (PaxStore.key entry.instanceId) (some entry) key =
      some other := found
  by_cases same : key = PaxStore.key entry.instanceId
  · rw [same, Function.update_self] at found
    rw [← Option.some.inj found]
    exact fine
  · rw [Function.update_of_ne same] at found
    exact holds.storage key other found

/-- Learning from others makes up no value. -/
theorem KnownNode.learnFromOthers (holds : KnownNode known node) (message : PaxMessage)
    (good : KnownMessage known message) :
    KnownNode known (PaxLearner.learnFromOthers node message) := by
  by_cases current : message.instanceId = node.instanceId
  · have stored : (PaxLearner.learnedEntry message).acceptedValue ∈ known := good.2.2.2
    rw [PaxLearner.learnFromOthers_current node message current]
    refine (holds.writeLog _ stored).step holds.acceptor holds.proposer good.2.2.2 rfl rfl ?_
    intro call member
    simp only [List.mem_cons, List.not_mem_nil, or_false] at member
    rcases member with rfl | rfl | rfl
    · trivial
    · exact good.2.2.2
    · exact stored
  · rw [PaxLearner.learnFromOthers_outdated node message current]
    exact holds.record _ trivial

/-- A published value is not made up. -/
theorem KnownNode.handleOthersPublish (holds : KnownNode known node) (message : PaxMessage)
    (good : KnownMessage known message) :
    KnownNode known (PaxLearner.handleOthersPublish node message) := by
  by_cases passes : PaxLearner.PassesPublish node message
  · rw [PaxLearner.handleOthersPublish_passed node message passes]
    exact holds.learnFromOthers message good
  · rw [PaxLearner.handleOthersPublish_stopped node message passes]
    exact holds

/-- Locking touches no value. -/
theorem KnownNode.lockFollow (holds : KnownNode known node) :
    KnownNode known (PaxLearner.lockFollow node) := by
  unfold PaxLearner.lockFollow
  split
  · exact holds.flags rfl rfl rfl rfl rfl
  · exact holds.flags rfl rfl rfl rfl rfl

/-- Unlocking touches no value. -/
theorem KnownNode.unlockFollow (holds : KnownNode known node) :
    KnownNode known (PaxLearner.unlockFollow node) := by
  unfold PaxLearner.unlockFollow
  split
  · exact holds
  · exact holds.flags rfl rfl rfl rfl rfl

/-- Confirming touches no value. -/
theorem KnownNode.confirmLearn (holds : KnownNode known node) (nodeId : NodeId) :
    KnownNode known (PaxLearner.confirmLearn node nodeId) := by
  simp only [PaxLearner.confirmLearn]
  split
  · exact holds.lockFollow
  · have locked := holds.lockFollow
    apply KnownNode.unlockFollow
    exact locked.flags rfl rfl rfl rfl rfl

/-- An answer without a value touches none. -/
theorem KnownNode.handleTellNewInstanceId (holds : KnownNode known node) (message : PaxMessage) :
    KnownNode known (PaxLearner.handleTellNewInstanceId node message) := by
  have noted : KnownNode known
      (PaxLearner.setPossibleHigherInstanceId node message.leaderInstanceId) := by
    obtain ⟨_, same⟩ := PaxLearner.setPossibleHigherInstanceId_eq node message.leaderInstanceId
    rw [same]
    exact holds.flags rfl rfl rfl rfl rfl
  simp only [PaxLearner.handleTellNewInstanceId]
  split
  · exact noted
  · split
    · exact noted
    · split
      · exact (noted.lockFollow.confirmLearn message.sender).unlockFollow
      · exact noted.lockFollow.unlockFollow

/-- The value that a comparison leaves is the one before or the one offered. -/
theorem tryUpdateLogValue_known {state : ProposerState} (held : state.logValue ∈ known)
    (proposalId : ProposalId) (nodeId : NodeId) {value : LogValue} (offered : value ∈ known) :
    (state.tryUpdateLogValue proposalId nodeId value).1.logValue ∈ known := by
  simp only [ProposerState.tryUpdateLogValue, ProposerState.tryUpdateHighestProposalId]
  repeat' split
  all_goals first | exact held | exact offered

/-- Counting an accept acknowledgement touches no value. -/
theorem countAcceptAck_logValue (node : Node) (message : PaxMessage) :
    (PaxProposer.countAcceptAck node message).proposerState.logValue =
      node.proposer.proposerState.logValue := by
  unfold PaxProposer.countAcceptAck
  split
  · rfl
  · simp only [ProposerState.tryUpdateHighestProposalId]
    repeat' split
    all_goals rfl

/-- Arming a round again names no value. -/
theorem relaunch_known (counter : ProposalCounter) (options : PaxosOptions)
    (eventType : EventType) (delay : Millisec) (message : PaxMessage) :
    ∀ call ∈ PaxProposer.relaunch counter options eventType delay message,
      KnownCall known call := by
  intro call member
  unfold PaxProposer.relaunch at member
  split at member
  · rw [List.mem_singleton.mp member]
    trivial
  · exact absurd member List.not_mem_nil

variable (empty : [] ∈ known)

include empty

/-- The value read for an instance is known. -/
theorem KnownNode.readState (holds : KnownNode known node) (instanceId : InstanceId) :
    (node.readState instanceId).acceptedValue ∈ known := by
  rw [Node.readState, PaxStore.readLog]
  cases found : node.storage (PaxStore.key instanceId) with
  | none => exact empty
  | some entry => exact holds.storage _ entry found

/-- A message with no value but a known one. -/
theorem known_new (sender : NodeId) (messageType : MessageType) :
    KnownMessage known (PaxMessage.new sender messageType) :=
  ⟨empty, empty, empty, empty⟩

/-- The acceptor makes up no value. -/
theorem KnownNode.acceptorHandles (holds : KnownNode known node) (message : PaxMessage)
    (good : KnownMessage known message) :
    KnownNode known (PaxAcceptor.handleMessage node message) := by
  by_cases request : PaxAcceptor.IsRequest message
  · by_cases above : PaxAcceptor.promisedPair node.acceptor < PaxAcceptor.requestPair message
    · have accepted : (PaxAcceptor.grantedState node.acceptor message).acceptedValue ∈ known := by
        unfold PaxAcceptor.grantedState
        split
        · exact good.1
        · exact holds.acceptor
      have stored : (PaxAcceptor.grantedEntry node message).acceptedValue ∈ known := by
        rw [PaxAcceptor.grantedEntry, PaxAcceptor.promisedEntry]
        split
        · exact accepted
        · exact empty
      have answered : KnownMessage known (PaxAcceptor.grantedAck node message) := by
        simp only [PaxAcceptor.grantedAck]
        split
        · exact ⟨empty, holds.acceptor, empty, empty⟩
        · exact known_new empty _ _
      rw [PaxAcceptor.handleMessage_granted node message request above]
      refine (holds.writeLog _ stored).step accepted holds.proposer holds.learner rfl rfl ?_
      intro call member
      rcases List.mem_pair.mp member with rfl | rfl
      · exact stored
      · exact answered
    · rw [PaxAcceptor.handleMessage_refused node message request above]
      refine holds.step holds.acceptor holds.proposer holds.learner rfl rfl fun call member => ?_
      rw [List.mem_singleton.mp member]
      exact ⟨empty, empty, empty, empty⟩
  · rw [PaxAcceptor.handleMessage_other node message request]
    exact holds

/-- The node's own notification makes up no value. -/
theorem KnownNode.handleSenderPublish (holds : KnownNode known node) (message : PaxMessage)
    (good : KnownMessage known message) :
    KnownNode known (PaxLearner.handleSenderPublish node message) := by
  have learned : KnownNode known (PaxLearner.learnFromSelf node message) := by
    by_cases passes : PaxLearner.PassesSelf node message
    · rw [PaxLearner.learnFromSelf_passed node message passes]
      exact holds.step holds.acceptor holds.proposer holds.acceptor rfl rfl fun _ member =>
        List.mem_singleton.mp member ▸ holds.acceptor
    · rw [PaxLearner.learnFromSelf_stopped node message passes]
      exact holds
  exact learned.record _ ⟨empty, empty, empty, good.2.2.1⟩

/-- A question is answered with a stored value, or without one. -/
theorem KnownNode.handleShallILearn (holds : KnownNode known node) (message : PaxMessage) :
    KnownNode known (PaxLearner.handleShallILearn node message) := by
  have answered : KnownMessage known (PaxLearner.shallILearnAnswer node message) := by
    unfold PaxLearner.shallILearnAnswer
    split
    · exact ⟨empty, empty, empty, holds.readState empty _⟩
    · exact ⟨empty, empty, empty, empty⟩
  obtain ⟨highest, same⟩ := PaxLearner.handleShallILearn_eq node message
  rw [same]
  exact holds.step holds.acceptor holds.proposer holds.learner rfl rfl fun _ member =>
    List.mem_singleton.mp member ▸ answered

/-- The learner makes up no value. -/
theorem KnownNode.learnerHandles (holds : KnownNode known node) (message : PaxMessage)
    (good : KnownMessage known message) :
    KnownNode known (PaxLearner.handleMessage node message) := by
  unfold PaxLearner.handleMessage
  cases message.messageType with
  | valueChosen =>
    exact (holds.handleSenderPublish empty message good).handleOthersPublish message good
  | learnerValueSend | valueChosenBroadcast => exact holds.handleOthersPublish message good
  | shallILearn => exact holds.handleShallILearn empty message
  | confirmLearn =>
    simp only [PaxLearner.handleConfirmLearn, PaxLearner.makeSenderReady]
    split
    · exact holds
    · exact holds.flags rfl rfl rfl rfl rfl
  | learnerValueSync =>
    have acked := known_new empty node.getNodeId .syncValueAck
    exact (holds.learnFromOthers message good).record _ acked
  | syncValueAck =>
    simp only [PaxLearner.handleValueAck]
    split
    · exact holds
    · split
      · exact holds.flags rfl rfl rfl rfl rfl
      · exact holds
  | tellInstanceId => exact holds.handleTellNewInstanceId message
  | _ => exact holds

/-- `Propose` asks for the value that the proposer holds. -/
theorem KnownNode.propose (holds : KnownNode known node) :
    KnownNode known (PaxProposer.propose node) := by
  have value : (PaxProposer.startRound node.proposer).proposerState.logValue ∈ known := by
    simp only [PaxProposer.startRound]
    split
    · exact holds.proposer
    · exact holds.proposer
  rw [PaxProposer.propose_eq]
  refine holds.step holds.acceptor value holds.learner rfl rfl fun call member => ?_
  rcases List.mem_pair.mp member with rfl | rfl
  · trivial
  · exact ⟨value, empty, empty, empty⟩

/-- The votes that are counted hold a known value. -/
theorem KnownNode.handleProposeAck (holds : KnownNode known node) (message : PaxMessage)
    (good : KnownMessage known message)
    (passes : ¬ PaxProposer.Discards .kPropose node message) :
    KnownNode known (PaxProposer.handleProposeAck node message) := by
  have value : (PaxProposer.countProposeAck node message).proposerState.logValue ∈ known := by
    unfold PaxProposer.countProposeAck
    split
    · exact tryUpdateLogValue_known holds.proposer _ _ good.2.1
    · simp only [ProposerState.tryUpdateHighestProposalId]
      repeat' split
      all_goals exact holds.proposer
  by_cases majority : PaxProposer.ObservesMajority node message
  · rw [PaxProposer.handleProposeAck_majority node message passes majority]
    have counted : KnownNode known (PaxProposer.withProposer node
        (PaxProposer.countProposeAck node message)) :=
      holds.silent holds.acceptor value holds.learner rfl rfl
    exact counted.propose empty
  · rw [PaxProposer.handleProposeAck_counted node message passes majority]
    exact holds.step holds.acceptor value holds.learner rfl rfl (relaunch_known _ _ _ _ _)

/-- **No message makes up a value.** -/
theorem known_kept : NodeInvariant (KnownNode known) (KnownMessage known) where
  acceptor _ message holds good := holds.acceptorHandles empty message good
  learner _ message holds good := holds.learnerHandles empty message good
  promise _ message holds good passes := holds.handleProposeAck empty message good passes
  counted node message holds _ _ := by
    have value := countAcceptAck_logValue node message ▸ holds.proposer
    exact holds.step holds.acceptor value holds.learner rfl rfl (relaunch_known _ _ _ _ _)
  majority node message holds _ _ := by
    have value := countAcceptAck_logValue node message ▸ holds.proposer
    exact ⟨holds.silent holds.acceptor value holds.learner rfl rfl,
      empty, empty, empty, empty⟩
  finish node holds := by
    cases blocked : node.blocked with
    | true =>
      rw [PaxController.finish_blocked node blocked]
      exact holds
    | false =>
      cases learned : node.learner.learnerState.learned with
      | true =>
        rw [PaxController.finish_learned node blocked learned]
        refine holds.step empty empty empty rfl rfl fun call member => ?_
        have final : call ∈ [_, _, _, _] := member
        simp only [List.mem_cons, List.not_mem_nil, or_false] at final
        rcases final with rfl | rfl | rfl | rfl
        · exact holds.learner
        · exact holds.learner
        · trivial
        · trivial
      | false =>
        rw [PaxController.finish_unlearned node learned]
        exact holds

/-- A new value is one that the provider hands over. -/
theorem KnownNode.newValue (holds : KnownNode known node) (flushed : Option LogValue)
    (timeout : Millisec) (fine : ∀ value ∈ flushed, value ∈ known) :
    KnownNode known (PaxProposer.newValue node flushed timeout) := by
  cases flushed with
  | none => exact holds
  | some value =>
    have offered := fine value rfl
    have flushed := holds.record (.flush node.instanceId value) offered
    let state := node.proposer.proposerState
    have named : (if state.logValue.isEmpty then state.setLogValue value else state).logValue ∈
        known := by
      split
      · exact offered
      · exact holds.proposer
    have set : KnownNode known (PaxProposer.withProposer
        (node.record (.flush node.instanceId value)) { node.proposer with
          proposerState := if state.logValue.isEmpty then state.setLogValue value else state }) :=
      flushed.silent flushed.acceptor named flushed.learner rfl rfl
    exact (set.record (.addEvent .newValueTimeout .newValueTimeoutCallback timeout) trivial).propose
      empty

/-- A timer makes up no value. -/
theorem KnownNode.fire (holds : KnownNode known node) (callback : TimerCallback) :
    KnownNode known (callback.fire node) := by
  cases callback with
  | proposeTimeoutCallback instanceId =>
    simp only [TimerCallback.fire, PaxProposer.proposeTimeoutCallback]
    split
    · exact holds
    · exact holds.propose empty
  | newValueTimeoutCallback =>
    simp only [TimerCallback.fire, PaxProposer.newValueTimeoutCallback]
    split
    · exact holds
    · have withdrawn := (holds.record (.removeEvent .proposeTimeout) trivial).record
        (.removeEvent .acceptTimeout) trivial
      have idle : KnownNode known (PaxProposer.withProposer
          ((node.withdraw .proposeTimeout).withdraw .acceptTimeout)
          { node.proposer with status := .kNone }) :=
        withdrawn.silent holds.acceptor holds.proposer holds.learner rfl rfl
      exact idle.record _ empty
  | shallLearn =>
    have locked := (holds.record
      (.addEvent .shallILearn .shallLearn PaxLearner.shallLearnDelay) trivial).lockFollow
    simp only [TimerCallback.fire, PaxLearner.shallLearn]
    split
    · exact locked
    · apply KnownNode.unlockFollow
      refine KnownNode.record ?_ _ ⟨empty, empty, empty, empty⟩
      exact locked.flags rfl rfl rfl rfl rfl

/-- The sending thread sends what is stored. -/
theorem KnownNode.sendingStep (holds : KnownNode known node) (tooSlow : Bool) :
    KnownNode known (PaxLearner.sendingStep node tooSlow) := by
  unfold PaxLearner.sendingStep
  cases node.learner.sendingPoint with
  | call | clear => exact holds.flags rfl rfl rfl rfl rfl
  | loopHead toSend receiver =>
    dsimp only
    split
    · have sent := holds.record (.send receiver
        { PaxMessage.new receiver .learnerValueSync with
          instanceId := toSend
          chosenValue := (node.readState toSend).acceptedValue
          proposalId := (node.readState toSend).acceptedProposalId
          proposingNodeId := (node.readState toSend).proposerId })
        ⟨empty, empty, empty, holds.readState empty toSend⟩
      exact sent.flags rfl rfl rfl rfl rfl
    · exact holds.flags rfl rfl rfl rfl rfl
  | _ =>
    dsimp only
    repeat' split
    all_goals first | exact holds | exact holds.flags rfl rfl rfl rfl rfl

/-- The values that are executed from the log are stored. -/
theorem KnownNode.executeStored (holds : KnownNode known node) (instanceId : InstanceId)
    (rounds : Nat) : KnownNode known (PaxController.executeStored node instanceId rounds) := by
  induction rounds generalizing node instanceId with
  | zero => exact holds
  | succ rounds ih =>
    have executed := holds.record (.execute instanceId (node.readState instanceId).acceptedValue)
      (holds.readState empty instanceId)
    exact ih executed (instanceId + 1)

/-- A restart reads values from the log, and makes up none. -/
theorem KnownNode.restart (holds : KnownNode known node) (instanceInSM memory : InstanceId) :
    KnownNode known (PaxController.restart node instanceInSM memory) := by
  have reborn : KnownNode known (PaxController.reborn node memory) :=
    ⟨empty, empty, empty, holds.storage, holds.calls⟩
  have recovered : KnownNode known (PaxAcceptor.init (PaxController.reborn node memory)).1 :=
    ⟨reborn.readState empty (-1), empty, empty, holds.storage, holds.calls⟩
  have pushed (before : Node) (known' : KnownNode known before) (first last : InstanceId) :
      KnownNode known { PaxController.pushSMByState before first last with instanceId := last } :=
    (known'.executeStored empty first _).flags rfl rfl rfl rfl rfl
  have started (before : Node) (known' : KnownNode known before) :
      KnownNode known (PaxLearner.init (PaxProposer.init before
        (before.acceptor.acceptedProposalId + 1))) := by
    have numbered : KnownNode known (PaxProposer.init before
        (before.acceptor.acceptedProposalId + 1)) :=
      known'.silent known'.acceptor known'.proposer known'.learner rfl rfl
    exact numbered.record _ trivial
  have caughtUp (behind : Prop) [Decidable behind] (last : InstanceId) :
      KnownNode known (if behind then
        { PaxController.pushSMByState (PaxAcceptor.init (PaxController.reborn node memory)).1
          instanceInSM last with instanceId := last }
      else (PaxAcceptor.init (PaxController.reborn node memory)).1) := by
    split
    · exact pushed _ recovered instanceInSM last
    · exact recovered
  simp only [PaxController.restart, PaxController.init, PaxController.recover]
  apply started
  split
  · exact (caughtUp _ _).flags rfl rfl rfl rfl rfl
  · exact caughtUp _ _

end KnownNodes

namespace Cluster

/-- What happens to a node besides messages: it acts, or it crashes and is started again. -/
inductive Incident where
  | activity (activity : Activity)
  | restart (instanceInSM memory : InstanceId)

/-- The step of an incident. -/
def Incident.run : Incident → Node → Node
  | .activity action => action.run
  | .restart instanceInSM memory => (PaxController.restart · instanceInSM memory)

/-- A node among others that may crash at any time. -/
def mortal (routing : Routing) : Party NodeId Node Incident PaxMessage where
  receive := (party routing).receive
  act node incident := perform incident.run node

/-- The values that were flushed into the proposer of a node. -/
def flushedValues (node : Node) : Set LogValue := {value | Flushed node value}

/-- More calls, more values. -/
theorem flushedValues_mono {before after : Node} (grows : before.calls <+: after.calls) :
    flushedValues before ⊆ flushedValues after := by
  rintro value ⟨instanceId, flushed⟩
  exact ⟨instanceId, grows.subset flushed⟩

/-- A message destroys no flushed value. -/
theorem flushedValues_received (routing : Routing) (node : Node) (message : PaxMessage) :
    flushedValues node ⊆ flushedValues
      (onMainThread (PaxController.handleMessage routing · message) node) :=
  flushedValues_mono (NumberReuse.logs_step node (.receive routing message)).grows

/-- An incident destroys no flushed value. -/
theorem flushedValues_acted (node : Node) (incident : Incident) :
    flushedValues node ⊆ flushedValues (incident.run node) := by
  cases incident with
  | activity action => exact flushedValues_mono (NumberReuse.logs_step node (.act action)).grows
  | restart instanceInSM memory =>
    exact flushedValues_mono (NumberReuse.logs_step node (.restart instanceInSM memory)).grows

/-- A value that is flushed is one of the flushed values of the node then. -/
theorem flushed_newValue (node : Node) (value : LogValue) (timeout : Millisec) :
    Flushed (PaxProposer.newValue node (some value) timeout) value := by
  refine ⟨node.instanceId, ?_⟩
  simp [PaxProposer.newValue, PaxProposer.propose_eq, Node.record, Node.publish,
    PaxProposer.withProposer]

/-- An incident makes up no value, if those that it flushes are known. -/
theorem known_incident {known : Set LogValue} {node : Node} (empty : [] ∈ known)
    (holds : KnownNode known node) (incident : Incident)
    (within : flushedValues (incident.run node) ⊆ known) :
    KnownNode known (incident.run node) := by
  cases incident with
  | activity action =>
    cases action with
    | newValue flushed timeout =>
      refine onMainThread_cases (PaxProposer.newValue · flushed timeout) holds fun free => ?_
      refine holds.newValue empty flushed timeout fun value offered => within ?_
      obtain rfl := Option.mem_def.mp offered
      show Flushed (onMainThread (PaxProposer.newValue · (some value) timeout) node) value
      rw [onMainThread_free _ node free]
      exact flushed_newValue node value timeout
    | timer callback =>
      exact onMainThread_cases callback.fire holds fun _ => holds.fire empty callback
    | sending tooSlow => exact holds.sendingStep empty tooSlow
  | restart instanceInSM memory => exact holds.restart empty instanceInSM memory

/-- A step to a node whose values are known posts messages whose values are known. -/
theorem keeps_known {known : Set LogValue} {node : Node} (step : Node → Node)
    (holds : KnownNode known (step node)) :
    Keeps (KnownNode known) (KnownMessage known) (perform step node) :=
  keeps_perform step holds holds.calls (fun _ _ fine => fine) fun _ fine => fine

/-- The flushed values, the empty one and those of a set account for all values. -/
theorem mortal_accounts (routing : Routing) (initial : Set LogValue) :
    (mortal routing).Accounts flushedValues
      (fun known => KnownNode (insert [] (initial ∪ known)))
      fun known => KnownMessage (insert [] (initial ∪ known)) where
  received node message := flushedValues_received routing node message
  acted node incident := flushedValues_acted node incident
  receive known node message holds good _ := by
    have empty := Set.mem_insert ([] : LogValue) (initial ∪ known)
    exact keeps_known _ (onMainThread_cases _ holds fun _ =>
      (known_kept empty).handleMessage holds good routing)
  act known node incident holds within := by
    have empty := Set.mem_insert ([] : LogValue) (initial ∪ known)
    have wider : flushedValues (incident.run node) ⊆ insert [] (initial ∪ known) :=
      fun value flushed => .inr (.inr (within flushed))
    exact keeps_known _ (known_incident empty holds incident wider)

/-- The values of a set, the empty one, and those that were flushed into some proposer. -/
def Sourced (initial : Set LogValue) (states : NodeId → Node) : Set LogValue :=
  insert [] (initial ∪ {value | ∃ id, Flushed (states id) value})

/-- **Values have a source.** In every run of a cluster over a network that loses, repeats and
reorders messages, and in which nodes crash and start again on their logs at any time, every value
that is accepted, proposed, learned, stored, sent, reported or executed was there at the start, is
empty, or was flushed into some proposer. -/
theorem values_have_source (routing : Routing) (members : List NodeId) (initial : Set LogValue)
    (air air' : OnAir) (start : air.Sound (KnownNode (insert [] initial))
      (KnownMessage (insert [] initial)))
    (run : Relation.ReflTransGen (LossyStep (mortal routing) members) air air') :
    air'.Sound (KnownNode (Sourced initial air'.states))
      (KnownMessage (Sourced initial air'.states)) := by
  let known : Set LogValue := {value | ∃ id, Flushed (air'.states id) value}
  have wider : insert [] initial ⊆ insert [] (initial ∪ known) :=
    Set.insert_subset_insert Set.subset_union_left
  have start' : air.Sound (KnownNode (insert [] (initial ∪ known)))
      (KnownMessage (insert [] (initial ∪ known))) :=
    ⟨fun id => (start.1 id).mono wider, fun post member => (start.2 post member).mono wider⟩
  have within (id : NodeId) : flushedValues (air'.states id) ⊆ known :=
    fun _ flushed => ⟨id, flushed⟩
  exact (mortal_accounts routing initial).lossy start' run within

/-- Nodes that are fresh hold no value but the empty one. -/
theorem known_launched (deployment : Deployment) (instanceId : InstanceId) :
    (launched deployment instanceId).Sound (KnownNode (insert [] ∅)) (KnownMessage (insert [] ∅)) :=
  ⟨fun _ => ⟨.inl rfl, .inl rfl, .inl rfl, nofun, nofun⟩, nofun⟩

/-- Node seven has submitted a value; node eight handles the request, crashes and starts again. -/
theorem values_have_source_crash :
    let crashed := (requestDelivered trioSubmitted).react 8 ((mortal .handlers).act
      ((requestDelivered trioSubmitted).states 8) (.restart 0 5))
    crashed.Sound (KnownNode (Sourced ∅ crashed.states))
      (KnownMessage (Sourced ∅ crashed.states)) := by
  intro crashed
  have submit : LossyStep (mortal .handlers) trio.members (launched trio 0) trioSubmitted :=
    LossyStep.act _ 7 List.mem_cons_self (Incident.activity (.newValue (some [42]) 1000))
  have sent : .broadcast firstRequest ∈ trioSubmitted.sent := by decide +kernel
  have deliver : LossyStep (mortal .handlers) trio.members trioSubmitted
      (requestDelivered trioSubmitted) :=
    .receive _ 8 (by decide) (.broadcast firstRequest) sent trivial
  have crash : LossyStep (mortal .handlers) trio.members (requestDelivered trioSubmitted) crashed :=
    LossyStep.act _ 8 (by decide) (Incident.restart 0 5)
  have run := ((Relation.ReflTransGen.single submit).tail deliver).tail crash
  exact values_have_source .handlers trio.members ∅ _ _ (known_launched trio 0) run

end Cluster

end Paxosme
