import Paxosme.Verif.ProposerKnowledge

/-!
# The value of a round

The rule of the algorithm: the accept request of a round carries the value of the
highest-numbered proposal that its promises report, or the own value where none reports one.
The source merges the value of a promise under the pair of the round itself, so the first
promise alone decides: its value is taken when the pair of the round exceeds what is known by
then, and no later promise is looked at. The closed form of a round is `pickedValue`; the
rule holds exactly where that one choice is the right one.
-/

namespace Paxosme
namespace PaxProposer

open WordOrder

/-- The state after a list of promise acknowledgements handled in order. -/
def ackRun (node : Node) (acks : List PaxMessage) : Node := acks.foldl handleProposeAck node

/-- Each acknowledgement passes the guards when its turn comes. -/
def PassesInTurn (node : Node) : List PaxMessage → Prop
  | [] => True
  | ack :: acks => ¬ Discards .kPropose node ack ∧ PassesInTurn (handleProposeAck node ack) acks

instance decidablePassesInTurn (node : Node) :
    (acks : List PaxMessage) → Decidable (PassesInTurn node acks)
  | [] => .isTrue trivial
  | ack :: acks =>
    have := decidablePassesInTurn (handleProposeAck node ack) acks
    inferInstanceAs (Decidable (_ ∧ _))

/-- The acknowledgements that one round counts: all carry its number and pass the guards. -/
structure OneRound (node : Node) (acks : List PaxMessage) : Prop where
  /-- Every acknowledgement carries the number of the round. -/
  number : ∀ ack ∈ acks, ack.proposalId = node.proposer.proposerState.myProposalId
  /-- Every acknowledgement passes the guards. -/
  passes : PassesInTurn node acks

/-- The promises among some acknowledgements. -/
def promisesOf (acks : List PaxMessage) : List PaxMessage := acks.filter fun ack => !ack.rejected

/-- No promise reports an accepted proposal. -/
def NoneReports (acks : List PaxMessage) : Prop :=
  ∀ ack ∈ promisesOf acks, ack.acceptedProposal = proposalDummy

instance (acks : List PaxMessage) : Decidable (NoneReports acks) :=
  inferInstanceAs (Decidable (∀ ack ∈ promisesOf acks, _ = _))

/-- The promises that report an accepted proposal with the highest number reported. -/
def highestReports (acks : List PaxMessage) : List PaxMessage :=
  (promisesOf acks).filter fun ack => ack.acceptedProposal ≠ proposalDummy ∧
    ∀ other ∈ promisesOf acks, other.acceptedProposal ≤ ack.acceptedProposal

/-- The value that the rule allows: a highest report's, or the own one without reports. -/
def HighestReported (own : LogValue) (acks : List PaxMessage) (value : LogValue) : Prop :=
  NoneReports acks ∧ value = own ∨ ∃ ack ∈ highestReports acks, value = ack.acceptedValue

/-- After the acknowledgements of a round the accept request carries the value of the rule. -/
def ChoosesHighest (node : Node) (acks : List PaxMessage) : Prop :=
  HighestReported node.proposer.proposerState.logValue acks
    (acceptMessage (ackRun node acks)).proposedLogValue

/-- The pair of the round that a proposer is in. -/
def roundPair (node : Node) : WordPair :=
  pair node.proposer.proposerState.myProposalId node.getNodeId

/-- When the first promise arrives, the pair of the round lies above everything known: the
pair known at the start and those that earlier rejections report. -/
def OutbidsKnown (round known : WordPair) (acks : List PaxMessage) : Prop :=
  known < round ∧ ∀ rejection ∈ acks.takeWhile (fun ack => ack.rejected),
    pair rejection.promisedProposalId rejection.promisedNodeId < round

instance (round known : WordPair) (acks : List PaxMessage) :
    Decidable (OutbidsKnown round known acks) :=
  inferInstanceAs (Decidable (_ ∧ _))

/-- The first promise among some acknowledgements. -/
def firstPromise (acks : List PaxMessage) : Option PaxMessage := acks.find? fun ack => !ack.rejected

/-- The value a round ends with, from what it starts with. -/
def pickedValue (round known : WordPair) (own : LogValue) (acks : List PaxMessage) : LogValue :=
  match firstPromise acks with
  | none => own
  | some first => if OutbidsKnown round known acks then first.acceptedValue else own

/-- The first promise settles the right value: where the round outbids what is known, its
value is a highest report's, or the own one without reports; elsewhere the own value is a
highest report's, or none reports. -/
def FirstPromiseDecides (node : Node) (acks : List PaxMessage) : Prop :=
  ∀ first, firstPromise acks = some first →
    if OutbidsKnown (roundPair node) node.proposer.proposerState.knownPair acks then
      NoneReports acks ∧ first.acceptedValue = node.proposer.proposerState.logValue ∨
        ∃ ack ∈ highestReports acks, first.acceptedValue = ack.acceptedValue
    else
      NoneReports acks ∨
        ∃ ack ∈ highestReports acks, node.proposer.proposerState.logValue = ack.acceptedValue

/-- Once the pair of the round does not exceed what is known, the value stays. -/
theorem ackRun_settled (round : WordPair) (node : Node) (acks : List PaxMessage)
    (passes : PassesInTurn node acks)
    (named : ∀ ack ∈ acks, pair ack.proposalId ack.proposingNodeId = round)
    (settled : ¬ node.proposer.proposerState.knownPair < round) :
    (ackRun node acks).proposer.proposerState.logValue =
      node.proposer.proposerState.logValue := by
  induction acks generalizing node with
  | nil => rfl
  | cons ack acks ih =>
    obtain ⟨passed, later⟩ := passes
    obtain ⟨value, known⟩ := handleProposeAck_knowledge node ack passed
    have named' := named ack List.mem_cons_self
    rw [countProposeAck_knowledge] at value known
    have step : (handleProposeAck node ack).proposer.proposerState.logValue =
          node.proposer.proposerState.logValue ∧
        ¬ (handleProposeAck node ack).proposer.proposerState.knownPair < round := by
      rw [value, known]
      split
      · rw [ProposerState.logValue_tryUpdateHighestProposalId,
          ProposerState.knownPair_tryUpdateHighestProposalId]
        exact ⟨rfl, fun below => settled (lt_of_le_of_lt (le_max_left _ _) below)⟩
      · rw [ProposerState.tryUpdateLogValue_eq, named', if_neg settled]
        exact ⟨rfl, settled⟩
    exact (ih _ later (fun other member => named other (List.mem_cons_of_mem _ member))
      step.2).trans step.1

/-- The value a round ends with is decided by its first promise. -/
theorem ackRun_logValue (round : WordPair) (node : Node) (acks : List PaxMessage)
    (passes : PassesInTurn node acks)
    (named : ∀ ack ∈ acks, pair ack.proposalId ack.proposingNodeId = round) :
    (ackRun node acks).proposer.proposerState.logValue =
      pickedValue round node.proposer.proposerState.knownPair
        node.proposer.proposerState.logValue acks := by
  induction acks generalizing node with
  | nil => rfl
  | cons ack acks ih =>
    obtain ⟨passed, later⟩ := passes
    obtain ⟨value, known⟩ := handleProposeAck_knowledge node ack passed
    have named' := named ack List.mem_cons_self
    have namedLater : ∀ other ∈ acks, pair other.proposalId other.proposingNodeId = round :=
      fun other member => named other (List.mem_cons_of_mem _ member)
    rw [countProposeAck_knowledge] at value known
    have unfolded : ackRun node (ack :: acks) = ackRun (handleProposeAck node ack) acks := rfl
    rw [unfolded]
    cases rejected : ack.rejected with
    | true =>
      -- a rejection joins what is known before the first promise
      rw [if_pos rejected] at value known
      rw [ih _ later namedLater, value, known,
        ProposerState.logValue_tryUpdateHighestProposalId,
        ProposerState.knownPair_tryUpdateHighestProposalId]
      have outbids : OutbidsKnown round (max node.proposer.proposerState.knownPair
          (pair ack.promisedProposalId ack.promisedNodeId)) acks ↔
            OutbidsKnown round node.proposer.proposerState.knownPair (ack :: acks) := by
        simp only [OutbidsKnown, List.takeWhile_cons, rejected, if_true, List.forall_mem_cons,
          max_lt_iff, and_assoc]
      simp only [pickedValue, firstPromise, List.find?_cons, rejected, Bool.not_true, outbids]
    | false =>
      rw [if_neg (by simp [rejected]), ProposerState.tryUpdateLogValue_eq, named']
        at value known
      have outbids : OutbidsKnown round node.proposer.proposerState.knownPair (ack :: acks) ↔
          node.proposer.proposerState.knownPair < round := by
        simp [OutbidsKnown, rejected]
      simp only [pickedValue, firstPromise, List.find?_cons, rejected, Bool.not_false, outbids]
      by_cases above : node.proposer.proposerState.knownPair < round
      · rw [if_pos above] at value known ⊢
        have reached : (handleProposeAck node ack).proposer.proposerState.knownPair = round :=
          known.trans named'
        rw [ackRun_settled round _ acks later namedLater (by rw [reached]; exact lt_irrefl _),
          value]
      · rw [if_neg above] at value known ⊢
        rw [ackRun_settled round _ acks later namedLater (by rw [known]; exact above), value]

/-- Every acknowledgement of a round names the pair of the round. -/
theorem OneRound.named {node : Node} {acks : List PaxMessage} (round : OneRound node acks) :
    ∀ ack ∈ acks, pair ack.proposalId ack.proposingNodeId = roundPair node := by
  obtain ⟨number, passes⟩ := round
  intro ack member
  have addressed : ack.proposingNodeId = node.getNodeId := by
    clear number
    induction acks generalizing node with
    | nil => simp at member
    | cons first acks ih =>
      obtain ⟨passed, later⟩ := passes
      have same : (handleProposeAck node first).getNodeId = node.getNodeId :=
        congrArg PaxosOptions.nodeId (handleProposeAck_phase node first passed).2
      rcases List.mem_cons.mp member with rfl | rest
      · exact ((not_discards_iff _ _ _).mp passed).2.1
      · exact (ih later rest).trans same
  rw [roundPair, number ack member, addressed]

/-- The rule holds of a round exactly where its first promise settles the right value. -/
theorem choosesHighest_iff (node : Node) (acks : List PaxMessage) (round : OneRound node acks) :
    ChoosesHighest node acks ↔ FirstPromiseDecides node acks := by
  have value := ackRun_logValue (roundPair node) node acks round.passes round.named
  have carried : (acceptMessage (ackRun node acks)).proposedLogValue =
      (ackRun node acks).proposer.proposerState.logValue := rfl
  rw [ChoosesHighest, carried, value, pickedValue, FirstPromiseDecides]
  cases first : firstPromise acks with
  | none =>
    have silent : NoneReports acks := by
      intro ack member
      have promise := List.mem_filter.mp member
      have absent := List.find?_eq_none.mp first ack promise.1
      exact absurd promise.2 absent
    simp [HighestReported, silent]
  | some promise =>
    simp only [Option.some.injEq, forall_eq', HighestReported]
    split
    · exact Iff.rfl
    · simp only [and_true]

/-- Node seven proposes a value of its own under number one. -/
def sampleProposer : Node :=
  propose { Node.fresh ⟨7, 1 / 2, 3, 0⟩ 0 with
    proposer := { proposerState := { logValue := [42] } } }

/-- A promise from one acceptor that has accepted nothing. -/
def samplePromise : PaxMessage :=
  { PaxMessage.new 8 .proposeAck with proposalId := 1, proposingNodeId := 7 }

/-- A promise from one acceptor that reports a value accepted under number three. -/
def sampleReport : PaxMessage :=
  { PaxMessage.new 9 .proposeAck with
    proposalId := 1, proposingNodeId := 7, acceptedProposal := 3, acceptedValue := [9] }

/-- The proposals of a round with a report are one round. -/
theorem sampleRound : OneRound sampleProposer [sampleReport, samplePromise] := by
  constructor
  · decide
  · decide +kernel

/-- A promise that reports nothing replaces the own value by the empty one. -/
theorem choosesHighest_empty_report : ¬ ChoosesHighest sampleProposer [samplePromise] := by
  unfold ChoosesHighest HighestReported
  decide +kernel

/-- A reported value that comes first is the one put into the accept request. -/
theorem choosesHighest_first_report :
    ChoosesHighest sampleProposer [sampleReport, samplePromise] :=
  (choosesHighest_iff _ _ sampleRound).mpr (by
    intro first found
    have same : sampleReport = first := Option.some.inj found
    subst same
    decide +kernel)

end PaxProposer
end Paxosme
