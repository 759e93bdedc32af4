import Paxosme.Core.Proposer

/-!
# What a proposer knows

`ProposerState` keeps one pair, the highest known proposal and its provider. The comparison
that moves it is written as two overlapping conditions and is the lexicographic order of the
pairs, so the pair is a high-water mark of everything offered to it: the numbers that
rejections report, and the round's own number each time a promise is counted.
-/

namespace Paxosme

open WordOrder

namespace ProposerState

/-- The highest pair a proposer knows. -/
def knownPair (state : ProposerState) : WordPair :=
  pair state.highestKnownProposal state.highestProposalProvider

/-- The state in which a pair is the highest known. -/
def withKnown (state : ProposerState) (proposalId : ProposalId) (nodeId : NodeId) :
    ProposerState :=
  { state with highestKnownProposal := proposalId, highestProposalProvider := nodeId }

/-- The known pair moves exactly to a pair lexicographically above it. -/
theorem tryUpdateHighestProposalId_eq (state : ProposerState) (proposalId : ProposalId)
    (nodeId : NodeId) :
    state.tryUpdateHighestProposalId proposalId nodeId =
      if knownPair state < pair proposalId nodeId then
        (state.withKnown proposalId nodeId, true)
      else (state, false) := by
  unfold tryUpdateHighestProposalId knownPair withKnown
  simp only [pair_lt_iff]
  by_cases lower : proposalId < state.highestKnownProposal
  · have notAbove : ¬ (state.highestKnownProposal < proposalId ∨
        state.highestKnownProposal = proposalId ∧ state.highestProposalProvider < nodeId) := by
      rintro (above | ⟨same, _⟩)
      · exact lt_asymm lower above
      · exact absurd same lower.ne'
    rw [if_pos lower, if_neg notAbove]
  · rw [if_neg lower]
    by_cases above : state.highestKnownProposal < proposalId
    · simp [above]
    · have same : state.highestKnownProposal = proposalId :=
        le_antisymm (not_lt.mp lower) (not_lt.mp above)
      simp [same]

/-- The value is replaced exactly when the known pair moves. -/
theorem tryUpdateLogValue_eq (state : ProposerState) (proposalId : ProposalId)
    (nodeId : NodeId) (logValue : LogValue) :
    state.tryUpdateLogValue proposalId nodeId logValue =
      if knownPair state < pair proposalId nodeId then
        ({ state.withKnown proposalId nodeId with logValue }, true)
      else (state, false) := by
  unfold tryUpdateLogValue
  rw [tryUpdateHighestProposalId_eq]
  by_cases above : knownPair state < pair proposalId nodeId
  · simp [above]
  · simp [above]

/-- The known pair is offered each pair reported. -/
theorem knownPair_tryUpdateHighestProposalId (state : ProposerState) (proposalId : ProposalId)
    (nodeId : NodeId) :
    knownPair (state.tryUpdateHighestProposalId proposalId nodeId).1 =
      max (knownPair state) (pair proposalId nodeId) := by
  rw [tryUpdateHighestProposalId_eq]
  split
  · rename_i above
    exact (max_eq_right above.le).symm
  · rename_i below
    exact (max_eq_left (not_lt.mp below)).symm

/-- Reporting a pair leaves the value. -/
theorem logValue_tryUpdateHighestProposalId (state : ProposerState) (proposalId : ProposalId)
    (nodeId : NodeId) :
    (state.tryUpdateHighestProposalId proposalId nodeId).1.logValue = state.logValue := by
  rw [tryUpdateHighestProposalId_eq]
  split
  · rfl
  · rfl

/-- Reporting a pair leaves the own number. -/
theorem myProposalId_tryUpdateHighestProposalId (state : ProposerState)
    (proposalId : ProposalId) (nodeId : NodeId) :
    (state.tryUpdateHighestProposalId proposalId nodeId).1.myProposalId = state.myProposalId := by
  rw [tryUpdateHighestProposalId_eq]
  split
  · rfl
  · rfl

/-- The highest known number is offered each number reported. -/
theorem highestKnown_tryUpdateHighestProposalId (state : ProposerState)
    (proposalId : ProposalId) (nodeId : NodeId) :
    (state.tryUpdateHighestProposalId proposalId nodeId).1.highestKnownProposal =
      max state.highestKnownProposal proposalId := by
  rw [tryUpdateHighestProposalId_eq, knownPair]
  split
  · rename_i above
    rcases (pair_lt_iff _ _ _ _).mp above with higher | ⟨same, _⟩
    · exact (max_eq_right higher.le).symm
    · rw [same, max_self]
      rfl
  · rename_i below
    rw [pair_lt_iff, not_or, not_lt] at below
    exact (max_eq_left below.1).symm

/-- Merging a value offers its number to the highest known one. -/
theorem highestKnown_tryUpdateLogValue (state : ProposerState) (proposalId : ProposalId)
    (nodeId : NodeId) (logValue : LogValue) :
    (state.tryUpdateLogValue proposalId nodeId logValue).1.highestKnownProposal =
      max state.highestKnownProposal proposalId := by
  have offered := state.highestKnown_tryUpdateHighestProposalId proposalId nodeId
  rw [tryUpdateLogValue_eq]
  rw [tryUpdateHighestProposalId_eq] at offered
  split
  · rename_i above
    rw [if_pos above] at offered
    exact offered
  · rename_i below
    rw [if_neg below] at offered
    exact offered

/-- A new number is the old one only where the addition wraps round to zero. -/
theorem newProposalId_eq_iff (state : ProposerState) :
    state.newProposalId.myProposalId = state.myProposalId ↔
      state.myProposalId = 0 ∧ state.highestKnownProposal = 0xFFFFFFFFFFFFFFFF := by
  unfold newProposalId
  by_cases lower : state.highestKnownProposal < state.myProposalId
  · rw [if_pos lower]
    refine iff_of_false (add_one_ne _) ?_
    rintro ⟨zero, highest⟩
    rw [zero, highest] at lower
    exact absurd lower (by decide)
  · rw [if_neg lower]
    constructor
    · intro same
      have bound := UInt64.le_iff_toNat_le.mp (not_lt.mp lower)
      have size := state.highestKnownProposal.toNat_lt
      have sum := congrArg UInt64.toNat same
      rw [UInt64.toNat_add] at sum
      have one : (1 : UInt64).toNat = 1 := rfl
      have top : (0xFFFFFFFFFFFFFFFF : UInt64).toNat = 2 ^ 64 - 1 := rfl
      have zero : (0 : UInt64).toNat = 0 := rfl
      constructor
      · apply UInt64.toNat_inj.mp
        omega
      · apply UInt64.toNat_inj.mp
        omega
    · rintro ⟨zero, highest⟩
      rw [zero, highest]
      rfl

/-- Merging a value leaves the own number. -/
theorem myProposalId_tryUpdateLogValue (state : ProposerState) (proposalId : ProposalId)
    (nodeId : NodeId) (logValue : LogValue) :
    (state.tryUpdateLogValue proposalId nodeId logValue).1.myProposalId = state.myProposalId := by
  rw [tryUpdateLogValue_eq]
  split
  · rfl
  · rfl

end ProposerState

namespace PaxProposer

/-- A counted promise offers the pair of the round with its value; a counted rejection offers
the pair it reports. -/
theorem countProposeAck_knowledge (node : Node) (ack : PaxMessage) :
    (countProposeAck node ack).proposerState =
      if ack.rejected then
        (node.proposer.proposerState.tryUpdateHighestProposalId ack.promisedProposalId
          ack.promisedNodeId).1
      else (node.proposer.proposerState.tryUpdateLogValue ack.proposalId ack.proposingNodeId
        ack.acceptedValue).1 := by
  unfold countProposeAck
  cases ack.rejected with
  | false => rfl
  | true => rfl

/-- Counting a promise acknowledgement leaves the own number. -/
theorem countProposeAck_myProposalId (node : Node) (message : PaxMessage) :
    (countProposeAck node message).proposerState.myProposalId =
      node.proposer.proposerState.myProposalId := by
  unfold countProposeAck
  split
  · exact ProposerState.myProposalId_tryUpdateLogValue _ _ _ _
  · exact ProposerState.myProposalId_tryUpdateHighestProposalId _ _ _

/-- Counting a promise acknowledgement leaves the status. -/
theorem countProposeAck_status (node : Node) (message : PaxMessage) :
    (countProposeAck node message).status = node.proposer.status := by
  unfold countProposeAck
  split
  · rfl
  · rfl

/-- Starting a round leaves the value. -/
theorem startRound_logValue (proposer : PaxProposer) :
    (startRound proposer).proposerState.logValue = proposer.proposerState.logValue := by
  unfold startRound
  split
  · rfl
  · rfl

/-- Starting a round leaves the known pair. -/
theorem startRound_knownPair (proposer : PaxProposer) :
    (startRound proposer).proposerState.knownPair = proposer.proposerState.knownPair := by
  unfold startRound
  split
  · rfl
  · rfl

/-- Whether or not the round starts again, a counted promise acknowledgement leaves the value
and the known pair of the count. -/
theorem handleProposeAck_knowledge (node : Node) (message : PaxMessage)
    (passes : ¬ Discards .kPropose node message) :
    (handleProposeAck node message).proposer.proposerState.logValue =
        (countProposeAck node message).proposerState.logValue ∧
      (handleProposeAck node message).proposer.proposerState.knownPair =
        (countProposeAck node message).proposerState.knownPair := by
  by_cases majority : ObservesMajority node message
  · rw [handleProposeAck_majority node message passes majority, propose_eq]
    exact ⟨startRound_logValue _, startRound_knownPair _⟩
  · rw [handleProposeAck_counted node message passes majority]
    exact ⟨rfl, rfl⟩

/-- The status and the options after a counted promise acknowledgement. -/
theorem handleProposeAck_phase (node : Node) (message : PaxMessage)
    (passes : ¬ Discards .kPropose node message) :
    (handleProposeAck node message).proposer.status = .kPropose ∧
      (handleProposeAck node message).options = node.options := by
  by_cases majority : ObservesMajority node message
  · rw [handleProposeAck_majority node message passes majority, propose_eq]
    exact ⟨rfl, rfl⟩
  · rw [handleProposeAck_counted node message passes majority]
    refine ⟨?_, rfl⟩
    have phase := ((not_discards_iff _ _ _).mp passes).1
    exact (countProposeAck_status node message).trans phase

end PaxProposer
end Paxosme
