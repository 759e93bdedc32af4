import Paxosme.Verif.AcceptorRuns
import Paxosme.Verif.ProposerKnowledge
import Paxosme.Verif.VoteCounting

/-!
# Messages of other instances

The learner compares the instance of a message with its own; the four handlers of requests
and acknowledgements do not. A message of another instance is therefore handled as one of the
current instance, and it leaves the current instance alone only by chance. This module says
exactly when: a request that the promise refuses, and an acknowledgement that the guards drop
or whose vote and value are there already.
-/

namespace Paxosme
namespace PaxController

open WordOrder

/-- What a message of another instance must leave alone. -/
structure RoundView where
  /-- The promised and the accepted state. -/
  acceptor : AcceptorState
  /-- The stored record of the instance. -/
  stored : Option PaxosLogEntry
  /-- The status of the proposer. -/
  status : ProposerStatus
  /-- The counters of the proposer. -/
  counter : ProposalCounter
  /-- The number of the proposer. -/
  number : ProposalId
  /-- The value of the proposer. -/
  value : LogValue
  deriving DecidableEq

/-- What a node holds for an instance. -/
def roundView (instanceId : InstanceId) (node : Node) : RoundView where
  acceptor := node.acceptor
  stored := node.storage.readLog instanceId
  status := node.proposer.status
  counter := node.proposer.proposalCounter
  number := node.proposer.proposerState.myProposalId
  value := node.proposer.proposerState.logValue

/-- A message leaves the instance of the node alone in both handlers. -/
def LeavesRound (routing : Routing) (node : Node) (message : PaxMessage) : Prop :=
  roundView node.instanceId (PaxAcceptor.handleMessage node message) =
      roundView node.instanceId node ∧
    roundView node.instanceId
        (PaxProposer.handleMessage (processChosenValue routing) node message) =
      roundView node.instanceId node

/-- A message of another instance leaves the instance of the node alone. -/
def Isolated (routing : Routing) (node : Node) (message : PaxMessage) : Prop :=
  message.instanceId ≠ node.instanceId → LeavesRound routing node message

/-- The value of an acknowledgement is not taken, or is the one already there. -/
def KeepsValue (node : Node) (ack : PaxMessage) : Prop :=
  ack.rejected = true ∨
    ¬ node.proposer.proposerState.knownPair < pair ack.proposalId ack.proposingNodeId ∨
    ack.acceptedValue = node.proposer.proposerState.logValue

/-- The number drawn after a rejection is the old one: the addition wraps round to zero. -/
def WrapsRound (node : Node) (ack : PaxMessage) : Prop :=
  node.proposer.proposerState.myProposalId = 0 ∧
    max node.proposer.proposerState.highestKnownProposal ack.promisedProposalId =
      0xFFFFFFFFFFFFFFFF

/-- The node's own id is counted already under the vote of an acknowledgement. -/
def CountedAlready (node : Node) (ack : PaxMessage) : Prop :=
  node.getNodeId ∈ PaxProposer.counted node.proposer.proposalCounter (PaxProposer.voteOf ack)

/-- A promise acknowledgement that changes nothing: the guards drop it, or it keeps the value
and either completes a majority on an empty counter without a new number, or casts a vote
that is counted already. -/
def HarmlessPromise (node : Node) (ack : PaxMessage) : Prop :=
  PaxProposer.Discards .kPropose node ack ∨
    KeepsValue node ack ∧
      if node.options.getMajorityCount ≤
          (if ack.rejected then node.proposer.proposalCounter.promises
            else insert node.getNodeId node.proposer.proposalCounter.promises).card then
        node.proposer.proposalCounter = {} ∧ (ack.rejected = true → WrapsRound node ack)
      else CountedAlready node ack

/-- An accept acknowledgement that changes nothing: the guards drop it, or it casts a vote
that is counted already and there is no majority of accepts. -/
def HarmlessApproval (node : Node) (ack : PaxMessage) : Prop :=
  PaxProposer.Discards .kAccept node ack ∨
    CountedAlready node ack ∧
      node.proposer.proposalCounter.approvals.card < node.options.getMajorityCount

/-- A message that changes nothing whatever its instance. -/
def Harmless (node : Node) (message : PaxMessage) : Prop :=
  match message.messageType with
  | .proposeBroadcast | .acceptBroadcast =>
    ¬ PaxAcceptor.promisedPair node.acceptor < PaxAcceptor.requestPair message
  | .proposeAck => HarmlessPromise node message
  | .acceptAck => HarmlessApproval node message
  | _ => True

/-- A request leaves the view exactly when it is refused. -/
theorem acceptor_leaves_iff (instanceId : InstanceId) (node : Node) (message : PaxMessage)
    (request : PaxAcceptor.IsRequest message) :
    roundView instanceId (PaxAcceptor.handleMessage node message) = roundView instanceId node ↔
      ¬ PaxAcceptor.promisedPair node.acceptor < PaxAcceptor.requestPair message := by
  constructor
  · intro same above
    have acceptor := congrArg RoundView.acceptor same
    have moved := PaxAcceptor.promisedPair_grantedState node.acceptor message
    rw [PaxAcceptor.handleMessage_granted node message request above] at acceptor
    have kept : PaxAcceptor.grantedState node.acceptor message = node.acceptor := acceptor
    rw [kept] at moved
    exact absurd above (moved ▸ lt_irrefl _)
  · intro below
    rw [PaxAcceptor.handleMessage_refused node message request below]
    rfl

/-- The value counted is the old one exactly when the acknowledgement keeps the value. -/
theorem countProposeAck_keeps_iff (node : Node) (ack : PaxMessage) :
    (PaxProposer.countProposeAck node ack).proposerState.logValue =
        node.proposer.proposerState.logValue ↔
      KeepsValue node ack := by
  rw [PaxProposer.countProposeAck_knowledge, KeepsValue]
  cases rejected : ack.rejected with
  | true =>
    rw [if_pos rfl, ProposerState.logValue_tryUpdateHighestProposalId]
    exact iff_of_true rfl (.inl rfl)
  | false =>
    rw [if_neg (by decide), ProposerState.tryUpdateLogValue_eq]
    by_cases above : node.proposer.proposerState.knownPair <
        pair ack.proposalId ack.proposingNodeId
    · simp [above]
    · simp [above]

/-- A round started after a count on an empty counter keeps the number, unless the count was
of a rejection, whose new number is the old one only by wrapping round. -/
theorem startRound_number_iff (node : Node) (ack : PaxMessage)
    (empty : node.proposer.proposalCounter = {}) :
    (PaxProposer.startRound (PaxProposer.countProposeAck node ack)).proposerState.myProposalId =
        node.proposer.proposerState.myProposalId ↔
      (ack.rejected = true → WrapsRound node ack) := by
  have number := PaxProposer.countProposeAck_myProposalId node ack
  have known := PaxProposer.countProposeAck_knowledge node ack
  cases rejected : ack.rejected with
  | false =>
    have nobody :
        (PaxProposer.countProposeAck node ack).proposalCounter.someoneReject = false := by
      simp [PaxProposer.countProposeAck, rejected, empty, ProposalCounter.addPromise,
        ProposalCounter.someoneReject]
    rw [PaxProposer.startRound, nobody, if_neg (by decide)]
    exact iff_of_true number fun no => absurd no (by decide)
  | true =>
    have someone :
        (PaxProposer.countProposeAck node ack).proposalCounter.someoneReject = true := by
      simp [PaxProposer.countProposeAck, rejected, empty, ProposalCounter.addRejection,
        ProposalCounter.someoneReject]
    rw [rejected, if_pos rfl] at known
    rw [PaxProposer.startRound, someone, if_pos rfl, ← number,
      ProposerState.newProposalId_eq_iff, number, known,
      ProposerState.highestKnown_tryUpdateHighestProposalId]
    exact ⟨fun wraps _ => wraps, fun wraps => wraps rfl⟩

/-- A promise acknowledgement that completes a majority leaves the view exactly when it keeps
the value, finds an empty counter and draws no new number. -/
theorem proposeAck_majority_leaves_iff (instanceId : InstanceId) (node : Node) (ack : PaxMessage)
    (passes : ¬ PaxProposer.Discards .kPropose node ack)
    (majority : PaxProposer.ObservesMajority node ack) :
    roundView instanceId (PaxProposer.handleProposeAck node ack) = roundView instanceId node ↔
      KeepsValue node ack ∧ node.proposer.proposalCounter = {} ∧
        (ack.rejected = true → WrapsRound node ack) := by
  have status := ((PaxProposer.not_discards_iff _ _ _).mp passes).1
  have value := PaxProposer.startRound_logValue (PaxProposer.countProposeAck node ack)
  rw [PaxProposer.handleProposeAck_majority node ack passes majority, PaxProposer.propose_eq,
    roundView, roundView, RoundView.mk.injEq]
  constructor
  · rintro ⟨_, _, _, counter, number, kept⟩
    have empty : node.proposer.proposalCounter = {} := counter.symm
    exact ⟨(countProposeAck_keeps_iff node ack).mp (value.symm.trans kept), empty,
      (startRound_number_iff node ack empty).mp number⟩
  · rintro ⟨keeps, empty, wraps⟩
    exact ⟨rfl, rfl, status.symm, empty.symm, (startRound_number_iff node ack empty).mpr wraps,
      value.trans ((countProposeAck_keeps_iff node ack).mpr keeps)⟩

/-- A promise acknowledgement short of a majority leaves the view exactly when it keeps the
value and its vote is counted already. -/
theorem proposeAck_counted_leaves_iff (instanceId : InstanceId) (node : Node) (ack : PaxMessage)
    (kind : ack.messageType = .proposeAck) (passes : ¬ PaxProposer.Discards .kPropose node ack)
    (short : ¬ PaxProposer.ObservesMajority node ack) :
    roundView instanceId (PaxProposer.handleProposeAck node ack) = roundView instanceId node ↔
      KeepsValue node ack ∧ CountedAlready node ack := by
  have counting : PaxProposer.countAck node ack = PaxProposer.countProposeAck node ack := by
    simp only [PaxProposer.countAck, kind]
  have counter := PaxProposer.countAck_proposalCounter node ack (.inl ⟨kind, passes⟩)
  rw [counting] at counter
  rw [PaxProposer.handleProposeAck_counted node ack passes short, roundView, roundView,
    RoundView.mk.injEq]
  rw [counter, PaxProposer.addVote_eq_self_iff, countProposeAck_keeps_iff,
    PaxProposer.countProposeAck_status, PaxProposer.countProposeAck_myProposalId]
  simp only [true_and]
  exact and_comm

/-- A promise acknowledgement leaves the view exactly when it is harmless. -/
theorem proposeAck_leaves_iff (instanceId : InstanceId) (node : Node) (ack : PaxMessage)
    (kind : ack.messageType = .proposeAck) :
    roundView instanceId (PaxProposer.handleProposeAck node ack) = roundView instanceId node ↔
      HarmlessPromise node ack := by
  by_cases discarded : PaxProposer.Discards .kPropose node ack
  · rw [PaxProposer.handleProposeAck_discarded node ack discarded]
    exact iff_of_true rfl (.inl discarded)
  · have majorityIff := PaxProposer.observesMajority_iff node ack
    rw [HarmlessPromise, or_iff_right discarded]
    by_cases majority : PaxProposer.ObservesMajority node ack
    · rw [if_pos (majorityIff.mp majority)]
      exact proposeAck_majority_leaves_iff instanceId node ack discarded majority
    · rw [if_neg fun enough => majority (majorityIff.mpr enough)]
      exact proposeAck_counted_leaves_iff instanceId node ack kind discarded majority

/-- Counting an accept acknowledgement leaves the status, the number and the value. -/
theorem countAcceptAck_keeps (node : Node) (ack : PaxMessage) :
    (PaxProposer.countAcceptAck node ack).status = node.proposer.status ∧
      (PaxProposer.countAcceptAck node ack).proposerState.myProposalId =
        node.proposer.proposerState.myProposalId ∧
      (PaxProposer.countAcceptAck node ack).proposerState.logValue =
        node.proposer.proposerState.logValue := by
  unfold PaxProposer.countAcceptAck
  split
  · exact ⟨rfl, rfl, rfl⟩
  · exact ⟨rfl, ProposerState.myProposalId_tryUpdateHighestProposalId _ _ _,
      ProposerState.logValue_tryUpdateHighestProposalId _ _ _⟩

/-- An accept acknowledgement that shows a majority moves the status. -/
theorem acceptAck_majority_moves (routing : Routing) (instanceId : InstanceId) (node : Node)
    (ack : PaxMessage) (passes : ¬ PaxProposer.Discards .kAccept node ack)
    (majority : (PaxProposer.countAcceptAck node ack).proposalCounter.isMajorityAccepted
      node.options = true) :
    roundView instanceId
        (PaxProposer.handleAcceptAck (processChosenValue routing) node ack) ≠
      roundView instanceId node := by
  have status := ((PaxProposer.not_discards_iff _ _ _).mp passes).1
  have moved := processChosenValue_status routing
    (PaxProposer.withProposer node
      { PaxProposer.countAcceptAck node ack with status := .kMajorityAccepted })
    (PaxProposer.chosenMessage node ack) rfl
  rw [PaxProposer.handleAcceptAck_majority _ node ack passes majority]
  intro same
  have kept := congrArg RoundView.status same
  simp only [roundView, status] at kept
  rw [kept] at moved
  rcases moved with accepted | cleared
  · simp [PaxProposer.withProposer] at accepted
  · exact absurd cleared (by decide)

/-- An accept acknowledgement short of a majority leaves the view exactly when it leaves the
counter. -/
theorem acceptAck_counted_leaves_iff (routing : Routing) (instanceId : InstanceId) (node : Node)
    (ack : PaxMessage) (passes : ¬ PaxProposer.Discards .kAccept node ack)
    (short : ¬ (PaxProposer.countAcceptAck node ack).proposalCounter.isMajorityAccepted
      node.options = true) :
    roundView instanceId
        (PaxProposer.handleAcceptAck (processChosenValue routing) node ack) =
        roundView instanceId node ↔
      (PaxProposer.countAcceptAck node ack).proposalCounter =
        node.proposer.proposalCounter := by
  obtain ⟨status, number, value⟩ := countAcceptAck_keeps node ack
  rw [PaxProposer.handleAcceptAck_counted _ node ack passes short, roundView, roundView,
    RoundView.mk.injEq, status, number, value]
  simp only [true_and, and_true]

/-- An accept acknowledgement leaves the view exactly when it is harmless. -/
theorem acceptAck_leaves_iff (routing : Routing) (instanceId : InstanceId) (node : Node)
    (ack : PaxMessage) (kind : ack.messageType = .acceptAck) :
    roundView instanceId
        (PaxProposer.handleAcceptAck (processChosenValue routing) node ack) =
        roundView instanceId node ↔
      HarmlessApproval node ack := by
  by_cases discarded : PaxProposer.Discards .kAccept node ack
  · rw [PaxProposer.handleAcceptAck_discarded _ node ack discarded]
    exact iff_of_true rfl (.inl discarded)
  · have counting : PaxProposer.countAck node ack = PaxProposer.countAcceptAck node ack := by
      simp only [PaxProposer.countAck, kind]
    have counter := PaxProposer.countAck_proposalCounter node ack (.inr ⟨kind, discarded⟩)
    rw [counting] at counter
    have unmoved : (PaxProposer.countAcceptAck node ack).proposalCounter =
        node.proposer.proposalCounter ↔ CountedAlready node ack := by
      rw [counter, PaxProposer.addVote_eq_self_iff]
      rfl
    rw [HarmlessApproval, or_iff_right discarded]
    by_cases majority : (PaxProposer.countAcceptAck node ack).proposalCounter.isMajorityAccepted
        node.options = true
    · -- an unmoved counter had the majority before
      refine iff_of_false (acceptAck_majority_moves routing instanceId node ack discarded majority)
        ?_
      rintro ⟨already, short⟩
      rw [unmoved.mpr already, ProposalCounter.isMajorityAccepted, decide_eq_true_iff] at majority
      omega
    · rw [acceptAck_counted_leaves_iff routing instanceId node ack discarded majority, unmoved]
      refine ⟨fun already => ⟨already, ?_⟩, And.left⟩
      rw [unmoved.mpr already, ProposalCounter.isMajorityAccepted, decide_eq_true_iff] at majority
      omega

/-- A message leaves the round alone exactly when it is harmless. -/
theorem leavesRound_iff (routing : Routing) (node : Node) (message : PaxMessage) :
    LeavesRound routing node message ↔ Harmless node message := by
  unfold LeavesRound Harmless
  cases kind : message.messageType with
  | proposeBroadcast =>
    have acceptor := acceptor_leaves_iff node.instanceId node message (.inl kind)
    simp only [PaxProposer.handleMessage, kind, and_true]
    exact acceptor
  | acceptBroadcast =>
    have acceptor := acceptor_leaves_iff node.instanceId node message (.inr kind)
    simp only [PaxProposer.handleMessage, kind, and_true]
    exact acceptor
  | proposeAck =>
    simp only [PaxAcceptor.handleMessage, PaxProposer.handleMessage, kind, true_and]
    exact proposeAck_leaves_iff node.instanceId node message kind
  | acceptAck =>
    simp only [PaxAcceptor.handleMessage, PaxProposer.handleMessage, kind, true_and]
    exact acceptAck_leaves_iff routing node.instanceId node message kind
  | _ => simp only [PaxAcceptor.handleMessage, PaxProposer.handleMessage, kind, and_self]

/-- A message leaves the instances apart exactly when it is of the current instance or
changes nothing anyway. -/
theorem isolated_iff (routing : Routing) (node : Node) (message : PaxMessage) :
    Isolated routing node message ↔
      message.instanceId = node.instanceId ∨ Harmless node message := by
  rw [Isolated, leavesRound_iff, ← or_iff_not_imp_left]

/-- An accept request of instance three is accepted at instance seven. -/
theorem isolated_late_accept :
    ¬ Isolated .source (Node.fresh ⟨7, 1 / 2, 3, 0⟩ 7)
      { PaxMessage.new 8 .acceptBroadcast with
        instanceId := 3, proposalId := 1, proposingNodeId := 8, proposedLogValue := [42] } := by
  intro isolated
  have leaves := congrArg RoundView.acceptor (isolated (by decide)).1
  revert leaves
  decide +kernel

end PaxController
end Paxosme
