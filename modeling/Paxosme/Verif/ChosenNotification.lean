import Paxosme.Core.Cluster
import Paxosme.Verif.AcceptorMemory

/-!
# The notification of a chosen value

A majority of accepts makes the proposer build a message of type `valueChosen` and hand it to
the learner of its own node, which learns from its acceptor and tells the others. Three things
go wrong on the way. The message names no proposing node, so the learner drops it. A message
that does name the node is handled twice, because its case falls through, and the second
handler learns the chosen value of the message, which is empty. The broadcast to the others
names the proposer, and their learners compare that name with their own id.
-/

namespace Paxosme

namespace ChosenNotification

open PaxAcceptor

/-- The accepted proposal of a node is what an instance leaves whose last accepted request had
this number, proposer and value. -/
def HasAccepted (node : Node) (proposalId : ProposalId) (proposer : NodeId) (value : LogValue) :
    Prop :=
  ∃ origin messages accept, lastAccepted (newInstance origin) messages = some accept ∧
    accept.proposalId = proposalId ∧ accept.proposingNodeId = proposer ∧
    accept.proposedLogValue = value ∧
    acceptedTriple node.acceptor = acceptedTriple (run (newInstance origin) messages).acceptor

/-- What the source stores of the request accepted last. -/
theorem HasAccepted.stored {node : Node} {proposalId : ProposalId} {proposer : NodeId}
    {value : LogValue} (accepted : HasAccepted node proposalId proposer value) :
    acceptedTriple node.acceptor = (proposer, proposer, value) := by
  obtain ⟨origin, messages, accept, last, _, rfl, rfl, same⟩ := accepted
  rw [same, acceptedTriple_run, last]
  rfl

/-- A proposer in the accept phase whose own acceptor has accepted its proposal. -/
structure Proposing (node : Node) (proposalId : ProposalId) (value : LogValue) : Prop where
  /-- The proposer waits for accept acknowledgements. -/
  phase : node.proposer.status = .kAccept
  /-- The number of its round. -/
  number : node.proposer.proposerState.myProposalId = proposalId
  /-- The value of its round. -/
  proposed : node.proposer.proposerState.logValue = value
  /-- Its own acceptor has accepted the proposal. -/
  accepted : HasAccepted node proposalId node.getNodeId value

/-- The state after a list of acknowledgements, each handed to the player of its type. -/
def ackRun (node : Node) (acks : List PaxMessage) : Node :=
  acks.foldl (PaxController.handleMessage .handlers) node

/-- An accept acknowledgement passes the guards and its count makes `IsMajorityAccepted` true.
The handler then leaves the accept phase, so it is the first one that does. -/
def Decides (node : Node) (ack : PaxMessage) : Prop :=
  ack.messageType = .acceptAck ∧ ¬ PaxProposer.Discards .kAccept node ack ∧
    (PaxProposer.countAcceptAck node ack).proposalCounter.isMajorityAccepted node.options = true

/-- Handling a message ends with the learner having learned a value for an instance. -/
def Learns (node : Node) (message : PaxMessage) (value : LogValue) (instanceId : InstanceId) :
    Prop :=
  (Node.learned (Node.callsSince node
    (PaxController.handleMessage .handlers node message))).getLast? = some (value, instanceId)

/-- The call records no learned value. -/
def TeachesNothing (call : Call) : Prop :=
  ∀ value instanceId proposalId proposer, call ≠ .learnNew value instanceId proposalId proposer

/-- The end of the handler teaches nothing. -/
theorem finish_teaches_nothing (node : Node) :
    Node.Adds TeachesNothing node (PaxController.finish node) := by
  refine (PaxController.finish_adds node).mono fun call member => ?_
  intro value instanceId proposalId proposer learned
  subst learned
  simp [PaxController.finalCalls] at member

/-- Where nothing is taught, no value is learned. -/
theorem not_learns {node : Node} {message : PaxMessage}
    (quiet : Node.Adds TeachesNothing node (PaxController.handleMessage .handlers node message))
    (value : LogValue) (instanceId : InstanceId) : ¬ Learns node message value instanceId := by
  intro learns
  have member := List.mem_of_getLast? learns
  obtain ⟨call, called, found⟩ := List.mem_filterMap.mp member
  have silent := quiet.callsSince call called
  cases call with
  | learnNew learned instanceId proposalId proposer => exact silent _ _ _ _ rfl
  | _ => simp at found

/-- An accept acknowledgement goes to the proposer. -/
theorem handleMessage_acceptAck (node : Node) (ack : PaxMessage)
    (isAck : ack.messageType = .acceptAck) :
    PaxController.handleMessage .handlers node ack =
      PaxController.finish (PaxProposer.handleAcceptAck
        (PaxController.processChosenValue .handlers) node ack) := by
  simp only [PaxController.handleMessage, PaxController.handleMessageBody,
    PaxController.dispatch, PaxProposer.handleMessage, isAck]
  rfl

/-- The re-entrant call hands a chosen value to the learner. -/
theorem processChosenValue_chosen (node : Node) (message : PaxMessage)
    (chosen : message.messageType = .valueChosen) :
    PaxController.processChosenValue .handlers node message =
      PaxController.finish (PaxLearner.handleMessage node message) := by
  simp only [PaxController.processChosenValue, PaxController.handleMessageBody,
    PaxController.dispatch, chosen]
  rfl

/-- A chosen value or a broadcast of one goes to the learner. -/
theorem handleMessage_learner (node : Node) (message : PaxMessage)
    (forLearner : PaxLearner.CarriesValue message) :
    PaxController.handleMessage .handlers node message =
      PaxController.finish (PaxLearner.handleMessage node message) := by
  rcases forLearner with kind | kind | kind | kind
  all_goals
    simp only [PaxController.handleMessage, PaxController.handleMessageBody,
      PaxController.dispatch, kind]
    rfl

/-- While the proposer stays in the accept phase, an accept acknowledgement leaves options,
instance and acceptor as they are. -/
theorem handleMessage_acceptAck_stays (node : Node) (ack : PaxMessage)
    (isAck : ack.messageType = .acceptAck)
    (phase : (PaxController.handleMessage .handlers node ack).proposer.status = .kAccept) :
    node.proposer.status = .kAccept ∧
      (PaxController.handleMessage .handlers node ack).options = node.options ∧
      (PaxController.handleMessage .handlers node ack).instanceId = node.instanceId ∧
      (PaxController.handleMessage .handlers node ack).acceptor = node.acceptor := by
  rw [handleMessage_acceptAck node ack isAck] at phase ⊢
  rcases PaxController.finish_or_cleared (PaxProposer.handleAcceptAck
      (PaxController.processChosenValue .handlers) node ack) with unchanged | cleared
  · rw [unchanged] at phase ⊢
    by_cases discarded : PaxProposer.Discards .kAccept node ack
    · rw [PaxProposer.handleAcceptAck_discarded _ node ack discarded] at phase ⊢
      exact ⟨phase, rfl, rfl, rfl⟩
    · have waiting := ((PaxProposer.not_discards_iff _ _ _).mp discarded).1
      by_cases majority : (PaxProposer.countAcceptAck node ack).proposalCounter.isMajorityAccepted
          node.options = true
      · -- a majority leaves the accept phase, whatever the learner does
        rw [PaxProposer.handleAcceptAck_majority _ node ack discarded majority] at phase
        rcases PaxController.processChosenValue_status .handlers _
            (PaxProposer.chosenMessage node ack) rfl with kept | none
        · rw [kept] at phase
          exact absurd phase (by simp [PaxProposer.withProposer])
        · rw [none] at phase
          exact absurd phase (by decide)
      · rw [PaxProposer.handleAcceptAck_counted _ node ack discarded majority]
        exact ⟨waiting, rfl, rfl, rfl⟩
  · rw [cleared] at phase
    exact absurd phase (by decide)

/-- While the proposer stays in the accept phase, a list of accept acknowledgements leaves
options, instance and acceptor as they are. -/
theorem ackRun_stays (node : Node) (acks : List PaxMessage)
    (areAcks : ∀ ack ∈ acks, ack.messageType = .acceptAck)
    (phase : (ackRun node acks).proposer.status = .kAccept) :
    (ackRun node acks).options = node.options ∧
      (ackRun node acks).instanceId = node.instanceId ∧
      (ackRun node acks).acceptor = node.acceptor := by
  induction acks using List.reverseRecOn with
  | nil => exact ⟨rfl, rfl, rfl⟩
  | append_singleton acks ack ih =>
    have last : ackRun node (acks ++ [ack]) =
        PaxController.handleMessage .handlers (ackRun node acks) ack := List.foldl_append
    rw [last] at phase ⊢
    obtain ⟨before, options, instanceId, acceptor⟩ :=
      handleMessage_acceptAck_stays (ackRun node acks) ack (areAcks ack (by simp)) phase
    obtain ⟨sameOptions, sameInstance, sameAcceptor⟩ :=
      ih (fun other member => areAcks other (List.mem_append_left _ member)) before
    exact ⟨options.trans sameOptions, instanceId.trans sameInstance,
      acceptor.trans sameAcceptor⟩

/-- A message that a guard of the second handler stops is not learned from, and only the
broadcast is added. -/
theorem handleMessage_chosen_stopped (node : Node) (message : PaxMessage)
    (chosen : message.messageType = .valueChosen)
    (stopped : ¬ PaxLearner.PassesPublish node message) :
    PaxLearner.handleMessage node message =
      PaxLearner.tellOthers node message.proposalId node.getNodeId message.learnedValue := by
  have sender : PaxLearner.handleSenderPublish node message =
      PaxLearner.tellOthers node message.proposalId node.getNodeId message.learnedValue := by
    rw [PaxLearner.handleSenderPublish,
      PaxLearner.learnFromSelf_stopped node message fun passes => stopped passes.1]
  simp only [PaxLearner.handleMessage, chosen, sender]
  exact PaxLearner.handleOthersPublish_stopped _ message stopped

/-- **A majority of accepts teaches the proposer's own node nothing.** The notification that
the deciding acknowledgement causes names node zero as the proposer; the acceptor of node zero
stores the number zero, which means that nothing is accepted, so a guard stops the message at
every node. -/
theorem majority_not_learned (node : Node) (proposalId : ProposalId) (value : LogValue)
    (proposing : Proposing node proposalId value) (acks : List PaxMessage) (ack : PaxMessage)
    (areAcks : ∀ earlier ∈ acks, earlier.messageType = .acceptAck)
    (decides : Decides (ackRun node acks) ack) :
    ¬ Learns (ackRun node acks) ack value node.instanceId := by
  obtain ⟨isAck, passes, majority⟩ := decides
  have phase := ((PaxProposer.not_discards_iff _ _ _).mp passes).1
  obtain ⟨options, _, acceptor⟩ := ackRun_stays node acks areAcks phase
  have stored := proposing.accepted.stored
  rw [← acceptor, Node.getNodeId, ← options] at stored
  generalize ackRun node acks = state at *
  let decided := PaxProposer.withProposer state
    { PaxProposer.countAcceptAck state ack with status := .kMajorityAccepted }
  have stopped : ¬ PaxLearner.PassesPublish decided (PaxProposer.chosenMessage state ack) := by
    rintro ⟨_, unnamed, accepted, _⟩
    have number : decided.acceptor.acceptedProposalId = decided.getNodeId :=
      congrArg Prod.fst stored
    rw [number] at accepted
    exact accepted unnamed.symm
  have told : Node.Adds TeachesNothing state (PaxLearner.tellOthers decided
      (PaxProposer.chosenMessage state ack).proposalId decided.getNodeId
      (PaxProposer.chosenMessage state ack).learnedValue) :=
    Node.adds_record decided _ fun _ _ _ _ => by simp
  refine not_learns ?_ _ _
  rw [handleMessage_acceptAck state ack isAck,
    PaxProposer.handleAcceptAck_majority _ state ack passes majority,
    processChosenValue_chosen decided _ rfl, handleMessage_chosen_stopped decided _ rfl stopped]
  exact (told.trans (finish_teaches_nothing _)).trans (finish_teaches_nothing _)

/-- Node seven, alone in its cluster, waits in the accept phase of round one; its acceptor has
accepted the request of the round. -/
def sampleProposer : Node :=
  { Node.fresh ⟨7, 1 / 2, 1, 0⟩ 0 with
    proposer :=
      { status := .kAccept, proposerState := { logValue := [42], myProposalId := 1 } }
    acceptor := (run (newInstance (Node.fresh ⟨7, 1 / 2, 1, 0⟩ 0)) [sampleAccept]).acceptor }

/-- The acknowledgement of the round. -/
def sampleAcceptAck : PaxMessage :=
  { PaxMessage.new 7 .acceptAck with proposalId := 1, proposingNodeId := 7 }

/-- The acceptor of the sample node has accepted the request of node seven. -/
theorem sampleProposer_accepted : HasAccepted sampleProposer 1 7 [42] :=
  ⟨Node.fresh ⟨7, 1 / 2, 1, 0⟩ 0, [sampleAccept], sampleAccept, by decide, rfl, rfl, rfl, rfl⟩

/-- The sample node is proposing. -/
theorem sampleProposer_proposing : Proposing sampleProposer 1 [42] :=
  ⟨rfl, rfl, rfl, sampleProposer_accepted⟩

/-- The acknowledgement decides at the sample node. -/
theorem sampleAcceptAck_decides : Decides (ackRun sampleProposer []) sampleAcceptAck := by
  unfold Decides
  decide +kernel

/-- The majority of one is not learned. -/
theorem majority_not_learned_alone :
    ¬ Learns (ackRun sampleProposer []) sampleAcceptAck [42] sampleProposer.instanceId :=
  majority_not_learned sampleProposer 1 [42] sampleProposer_proposing [] sampleAcceptAck
    (by simp) sampleAcceptAck_decides

/-- At a node that has proposed and accepted a value, the deciding acknowledgement does not make
the learner learn it. -/
theorem majority_lost :
    ¬ (Proposing sampleProposer 1 [42] → Decides (ackRun sampleProposer []) sampleAcceptAck →
      Learns (ackRun sampleProposer []) sampleAcceptAck [42] 0) := by
  intro claimed
  have learned := claimed sampleProposer_proposing sampleAcceptAck_decides
  unfold Learns at learned
  revert learned
  decide +kernel

/-- The acceptor of a node reports the node's own accepted proposal. -/
structure ReportsOwn (node : Node) (proposalId : ProposalId) (value : LogValue) : Prop where
  /-- The number reported. -/
  number : node.getAcceptedProposal.proposalId = proposalId
  /-- The number says that something is accepted. -/
  accepted : proposalId ≠ proposalDummy
  /-- The proposer reported is the node itself. -/
  proposer : node.getAcceptedProposal.nodeId = node.getNodeId
  /-- The value reported. -/
  value : node.getAccepted = value

/-- A notification of the node's own proposal in the current instance, as it should be: it names
the node, and it carries no chosen value. -/
structure NotifiesOwn (node : Node) (proposalId : ProposalId) (message : PaxMessage) : Prop where
  /-- The type. -/
  kind : message.messageType = .valueChosen
  /-- The instance. -/
  current : message.instanceId = node.instanceId
  /-- The number. -/
  number : message.proposalId = proposalId
  /-- The proposer. -/
  proposer : message.proposingNodeId = node.getNodeId
  /-- There is no chosen value. -/
  unvalued : message.chosenValue = []

/-- Handling a notification ends with a value learned and with that value in the record. -/
def KeepsChosen (node : Node) (message : PaxMessage) (value : LogValue) : Prop :=
  (PaxLearner.handleMessage node message).learner.learnerState =
      { logValue := value, learned := true } ∧
    ((PaxLearner.handleMessage node message).readState node.instanceId).acceptedValue = value

/-- Handling one's own notification keeps the chosen value exactly when it is empty: the second
handler learns and persists the chosen value of the message. -/
theorem keepsChosen_iff (node : Node) (proposalId : ProposalId) (value : LogValue)
    (message : PaxMessage) (reports : ReportsOwn node proposalId value)
    (notifies : NotifiesOwn node proposalId message) :
    KeepsChosen node message value ↔ value = [] := by
  have same := PaxLearner.besides_handleSenderPublish node message
  simp only [PaxLearner.besides, Prod.mk.injEq] at same
  obtain ⟨options, instanceId, _, acceptor⟩ := same
  have current : message.instanceId =
      (PaxLearner.handleSenderPublish node message).instanceId :=
    notifies.current.trans instanceId.symm
  have passes : PaxLearner.PassesPublish (PaxLearner.handleSenderPublish node message)
      message := by
    refine ⟨current, ?_, ?_, ?_⟩
    · rw [Node.getNodeId, options]
      exact notifies.proposer
    · rw [acceptor]
      have number : node.acceptor.acceptedProposalId = proposalId := reports.number
      rw [number]
      exact reports.accepted
    · rw [acceptor, notifies.number]
      exact reports.number.symm
  have handled : PaxLearner.handleMessage node message =
      PaxLearner.learnFromOthers (PaxLearner.handleSenderPublish node message) message := by
    rw [← PaxLearner.handleOthersPublish_passed _ message passes]
    simp only [PaxLearner.handleMessage, notifies.kind]
  have read : (PaxLearner.handleMessage node message).readState node.instanceId =
      PaxLearner.learnedEntry message := by
    rw [handled, PaxLearner.learnFromOthers_current _ message current, ← notifies.current]
    exact congrArg (Option.getD · _) (PaxStore.readLog_writeLog _ (PaxLearner.learnedEntry message))
  have learned : (PaxLearner.handleMessage node message).learner.learnerState =
      { logValue := [], learned := true } := by
    rw [handled, PaxLearner.learnFromOthers_current _ message current, notifies.unvalued]
  rw [KeepsChosen, read, learned, PaxLearner.learnedEntry, notifies.unvalued]
  simp only [PaxLearnerState.mk.injEq, and_true, and_self]
  exact eq_comm

/-- Node seven has accepted its own proposal number seven, and the record of its instance says
so. -/
def sampleDecided : Node :=
  PaxAcceptor.handleMessage (Node.fresh sampleOptions 0) { sampleAccept with proposalId := 7 }

/-- The notification of the proposal, with its proposer. -/
def sampleChosen : PaxMessage :=
  { PaxMessage.new 7 .valueChosen with proposalId := 7, proposingNodeId := 7 }

/-- The sample node keeps an empty value only. -/
theorem keepsChosen_sample : KeepsChosen sampleDecided sampleChosen [42] ↔ [42] = ([] : LogValue) :=
  keepsChosen_iff sampleDecided 7 [42] sampleChosen ⟨rfl, by decide, rfl, rfl⟩
    ⟨rfl, rfl, rfl, rfl, rfl⟩

/-- The value of node seven is overwritten by its own notification. -/
theorem keepsChosen_overwritten :
    ¬ (ReportsOwn sampleDecided 7 [42] → NotifiesOwn sampleDecided 7 sampleChosen →
      KeepsChosen sampleDecided sampleChosen [42]) := by
  intro claimed
  have kept := claimed ⟨rfl, by decide, rfl, rfl⟩ ⟨rfl, rfl, rfl, rfl, rfl⟩
  exact absurd kept.1 (by decide)

/-- A node handles the notification of its own accepted proposal. -/
structure Announces (node : Node) (proposalId : ProposalId) (value : LogValue)
    (message : PaxMessage) : Prop where
  /-- Its acceptor has accepted the proposal. -/
  accepted : HasAccepted node proposalId node.getNodeId value
  /-- The message is a notification. -/
  kind : message.messageType = .valueChosen
  /-- It is of the current instance. -/
  current : message.instanceId = node.instanceId
  /-- It has the number of the proposal. -/
  number : message.proposalId = proposalId

/-- Another node in the same instance has accepted the proposal. -/
structure Shares (announcer other : Node) (proposalId : ProposalId) (value : LogValue) :
    Prop where
  /-- The node is another one. -/
  apart : other.getNodeId ≠ announcer.getNodeId
  /-- It is in the same instance. -/
  current : other.instanceId = announcer.instanceId
  /-- Its acceptor has accepted the proposal. -/
  accepted : HasAccepted other proposalId announcer.getNodeId value

/-- Handling a broadcast ends with the value learned for the instance and with that value in
the record. -/
def LearnsAndPersists (other : Node) (broadcast : PaxMessage) (value : LogValue)
    (instanceId : InstanceId) : Prop :=
  Learns other broadcast value instanceId ∧
    ((PaxController.handleMessage .handlers other broadcast).readState
      instanceId).acceptedValue = value

/-- The chosen values that a node broadcasts while it handles a notification. -/
def announcements (node : Node) (message : PaxMessage) : List PaxMessage :=
  (Node.broadcasts (Node.callsSince node
    (PaxController.handleMessage .handlers node message))).filter fun broadcast =>
      broadcast.messageType = .valueChosenBroadcast

/-- The call is no broadcast of a chosen value, or one that names the node as its proposer. -/
def NamesAnnouncer (announcer : NodeId) (call : Call) : Prop :=
  ∀ broadcast, call = .broadcast broadcast →
    broadcast.messageType = .valueChosenBroadcast → broadcast.proposingNodeId = announcer

/-- Learning broadcasts nothing. -/
theorem namesAnnouncer_learning (announcer : NodeId) (call : Call)
    (learning : PaxLearner.LearningCall call) : NamesAnnouncer announcer call := by
  rintro broadcast rfl
  exact absurd learning id

/-- A node that handles a notification broadcasts chosen values under its own name. -/
theorem announcements_proposer (node : Node) (message broadcast : PaxMessage)
    (chosen : message.messageType = .valueChosen)
    (announced : broadcast ∈ announcements node message) :
    broadcast.messageType = .valueChosenBroadcast ∧
      broadcast.proposingNodeId = node.getNodeId := by
  obtain ⟨sent, kind⟩ := List.mem_filter.mp announced
  have isBroadcast : broadcast.messageType = .valueChosenBroadcast := by simpa using kind
  have self := (PaxLearner.learnFromSelf_adds node message).mono
    (namesAnnouncer_learning node.getNodeId)
  have sameOptions : (PaxLearner.learnFromSelf node message).options = node.options :=
    congrArg Prod.fst (PaxLearner.besides_learnFromSelf node message)
  have told : Node.Adds (NamesAnnouncer node.getNodeId) (PaxLearner.learnFromSelf node message)
      (PaxLearner.handleSenderPublish node message) := by
    refine Node.adds_record _ _ fun other same _ => ?_
    rw [← Call.broadcast.inj same]
    exact congrArg PaxosOptions.nodeId sameOptions
  have others := (PaxLearner.handleOthersPublish_adds
    (PaxLearner.handleSenderPublish node message) message).mono
    (namesAnnouncer_learning node.getNodeId)
  have ended : Node.Adds (NamesAnnouncer node.getNodeId) (PaxLearner.handleOthersPublish
      (PaxLearner.handleSenderPublish node message) message)
      (PaxController.finish (PaxLearner.handleOthersPublish
        (PaxLearner.handleSenderPublish node message) message)) := by
    refine (PaxController.finish_adds _).mono fun call member other same _ => ?_
    subst same
    simp [PaxController.finalCalls] at member
  have handled : PaxController.handleMessage .handlers node message =
      PaxController.finish (PaxLearner.handleOthersPublish
        (PaxLearner.handleSenderPublish node message) message) := by
    rw [handleMessage_learner node message (.inl chosen)]
    simp only [PaxLearner.handleMessage, chosen]
  have all := ((self.trans told).trans others).trans ended
  rw [← handled] at all
  exact ⟨isBroadcast, all.callsSince _ (Node.mem_broadcasts.mp sent) broadcast rfl isBroadcast⟩

/-- **A published decision is learned by no other node.** The broadcast names its sender as the
proposer, and the guard of the receiver compares that name with the receiver's own id. -/
theorem broadcast_not_learned (announcer other : Node) (proposalId : ProposalId)
    (value : LogValue) (message broadcast : PaxMessage)
    (announces : Announces announcer proposalId value message)
    (shares : Shares announcer other proposalId value)
    (announced : broadcast ∈ announcements announcer message) :
    ¬ LearnsAndPersists other broadcast value announcer.instanceId := by
  obtain ⟨kind, proposer⟩ := announcements_proposer announcer message broadcast announces.kind
    announced
  have stopped : ¬ PaxLearner.PassesPublish other broadcast := fun passes =>
    shares.apart (passes.2.1.symm.trans proposer)
  have handled : PaxController.handleMessage .handlers other broadcast =
      PaxController.finish other := by
    rw [handleMessage_learner other broadcast (.inr (.inr (.inl kind)))]
    simp only [PaxLearner.handleMessage, kind]
    rw [PaxLearner.handleOthersPublish_stopped other broadcast stopped]
  rintro ⟨learns, _⟩
  have quiet := finish_teaches_nothing other
  rw [← handled] at quiet
  exact not_learns quiet value announcer.instanceId learns

/-- Node eight has accepted the request of node seven. -/
def sampleOther : Node :=
  { Node.fresh ⟨8, 1 / 2, 3, 0⟩ 0 with
    acceptor := (run (newInstance (Node.fresh ⟨8, 1 / 2, 3, 0⟩ 0)) [sampleAccept]).acceptor }

/-- Node seven has accepted its own request and announces it. -/
theorem sample_announces : Announces sampleProposer 1 [42]
    { PaxMessage.new 7 .valueChosen with proposalId := 1, proposingNodeId := 7 } :=
  ⟨sampleProposer_accepted, rfl, rfl, rfl⟩

/-- Node eight shares the accepted proposal. -/
theorem sample_shares : Shares sampleProposer sampleOther 1 [42] :=
  ⟨by decide, rfl, Node.fresh ⟨8, 1 / 2, 3, 0⟩ 0, [sampleAccept], sampleAccept, by decide, rfl, rfl,
    rfl, rfl⟩

/-- The broadcast of node seven. -/
def sampleBroadcast : PaxMessage :=
  { PaxMessage.new 7 .valueChosenBroadcast with proposalId := 1, proposingNodeId := 7 }

/-- Node seven broadcasts it. -/
theorem sampleBroadcast_announced : sampleBroadcast ∈ announcements sampleProposer
    { PaxMessage.new 7 .valueChosen with proposalId := 1, proposingNodeId := 7 } := by
  decide

/-- Node eight does not learn the value that node seven announces. -/
theorem broadcast_not_learned_sample :
    ¬ LearnsAndPersists sampleOther sampleBroadcast [42] sampleProposer.instanceId :=
  broadcast_not_learned sampleProposer sampleOther 1 [42] _ sampleBroadcast sample_announces
    sample_shares sampleBroadcast_announced

/-- A decision announced to a node that has accepted it is lost. -/
theorem broadcast_lost :
    ¬ (Announces sampleProposer 1 [42]
        { PaxMessage.new 7 .valueChosen with proposalId := 1, proposingNodeId := 7 } →
      Shares sampleProposer sampleOther 1 [42] →
      LearnsAndPersists sampleOther sampleBroadcast [42] 0) := by
  intro claimed
  have learned := (claimed sample_announces sample_shares).1
  unfold Learns at learned
  revert learned
  decide

end ChosenNotification
end Paxosme
