import Paxosme.Verif.VoteCounting

/-!
# When a round is abandoned

A round cannot succeed any more when a majority of nodes has rejected it, or when all nodes
have answered and no majority has granted. The handlers ask the counter, which knows the
node's own id alone, and they ask `IsStillPending`, which is true when no answer is missing.
So the first answer already arms the timer wherever more answers are expected, and the last
one does not; only where one vote is a majority does the decision come out right.
-/

namespace Paxosme
namespace PaxProposer

/-- After an acknowledgement is added to the ledger, no majority has granted its request, and
either a majority has rejected it or all members have answered. -/
def Hopeless (members : Finset NodeId) (options : PaxosOptions) (ledger : Ledger)
    (ack : PaxMessage) : Prop :=
  (ledger (grantOf ack)).card < options.getMajorityCount ∧
    (options.getMajorityCount ≤ (ledger .rejection).card ∨
      members ⊆ ledger (grantOf ack) ∪ ledger .rejection)

instance (members : Finset NodeId) (options : PaxosOptions) (ledger : Ledger)
    (ack : PaxMessage) : Decidable (Hopeless members options ledger ack) :=
  inferInstanceAs (Decidable (_ ∧ _))

/-- Handling an acknowledgement does nothing outside the proposer but to arm a timer that calls
`Propose` in the instance of the acknowledgement. -/
def Relaunches (routing : Routing) (node : Node) (ack : PaxMessage) : Prop :=
  ∃ eventType delay, Node.callsSince node (handleAck routing node ack) =
    [.addEvent eventType (.proposeTimeoutCallback ack.instanceId) delay]

/-- Each acknowledgement arms the timer exactly when its round cannot succeed any more. -/
def RelaunchesHopeless (routing : Routing) (members : Finset NodeId) (node : Node)
    (ledger : Ledger) : List PaxMessage → Prop
  | [] => True
  | ack :: acks =>
    (Relaunches routing node ack ↔ Hopeless members node.options (ledger.add ack) ack) ∧
    RelaunchesHopeless routing members (handleAck routing node ack)
      (ledger.next (handleAck routing node ack) ack) acks

/-- The learner announces a chosen value to the others. -/
theorem handleMessage_announces (node : Node) (message : PaxMessage)
    (chosen : message.messageType = .valueChosen) :
    ∃ early announced later, (PaxLearner.handleMessage node message).calls =
      node.calls ++ early ++ .broadcast announced :: later := by
  obtain ⟨early, learned, _⟩ := PaxLearner.learnFromSelf_adds node message
  obtain ⟨later, published, _⟩ := PaxLearner.handleOthersPublish_adds
    (PaxLearner.handleSenderPublish node message) message
  have told : ∃ announced, (PaxLearner.handleSenderPublish node message).calls =
      (PaxLearner.learnFromSelf node message).calls ++ [.broadcast announced] := ⟨_, rfl⟩
  obtain ⟨announced, told⟩ := told
  refine ⟨early, announced, later, ?_⟩
  simp only [PaxLearner.handleMessage, chosen]
  rw [published, told, learned, List.append_assoc, List.singleton_append]

/-- The re-entrant call arms no timer alone. -/
theorem processChosenValue_not_relaunches (routing : Routing) (node : Node) (message : PaxMessage)
    (chosen : message.messageType = .valueChosen) (eventType : EventType)
    (callback : TimerCallback) (delay : Millisec) :
    Node.callsSince node (PaxController.processChosenValue routing node message) ≠
      [.addEvent eventType callback delay] := by
  intro alone
  unfold PaxController.processChosenValue PaxController.handleMessageBody at alone
  split at alone
  · rw [Node.callsSince, List.drop_length] at alone
    exact absurd alone (by simp)
  · obtain ⟨last, ended, final⟩ := PaxController.finish_adds
      (PaxController.dispatch routing (fun node _ => node) node message)
    by_cases learner : routing.messageForLearner message.messageType
    · obtain ⟨early, announced, later, calls⟩ := handleMessage_announces node message chosen
      rw [PaxController.dispatch, if_pos learner] at ended alone
      rw [calls, List.append_assoc, List.append_assoc] at ended
      rw [Node.callsSince_of_append ended] at alone
      have member : Call.broadcast announced ∈ [Call.addEvent eventType callback delay] := by
        rw [← alone]
        simp
      exact absurd (List.mem_singleton.mp member) (by simp)
    · have silent : PaxController.dispatch routing (fun node _ => node) node message = node := by
        rw [PaxController.dispatch, if_neg learner]
        split
        · simp only [handleMessage, chosen]
        · split
          · simp only [PaxAcceptor.handleMessage, chosen]
          · rfl
      rw [silent] at ended final alone
      rw [Node.callsSince_of_append ended] at alone
      have member := final (.addEvent eventType callback delay) (alone ▸ List.mem_singleton_self _)
      simp [PaxController.finalCalls] at member

/-- The timer is armed short of a majority of grants, when the counter shows a majority of
rejections or misses an answer. -/
theorem relaunches_iff (routing : Routing) (node : Node) (ack : PaxMessage)
    (passes : AckPasses node ack) :
    Relaunches routing node ack ↔
      ¬ isMajority (countAck node ack).proposalCounter node.options (grantOf ack) = true ∧
        (isMajority (countAck node ack).proposalCounter node.options .rejection = true ∨
          (countAck node ack).proposalCounter.voteCount < node.options.memberCount) := by
  by_cases majority :
      isMajority (countAck node ack).proposalCounter node.options (grantOf ack) = true
  · refine iff_of_false ?_ fun short => short.1 majority
    rintro ⟨eventType, delay, alone⟩
    rcases passes with ⟨kind, passed⟩ | ⟨kind, passed⟩
    · have handled : (handleAck routing node ack).calls = node.calls ++
          [.addEvent .proposeTimeout (.proposeTimeoutCallback node.instanceId) proposeTimeout,
            .broadcast (prepareMessage (withProposer node (countAck node ack)))] := by
        rw [handleAck_promised routing node ack kind passed majority, propose_eq]
        rfl
      rw [Node.callsSince_of_append handled] at alone
      simp at alone
    · rw [handleAck_approved routing node ack kind passed majority] at alone
      exact processChosenValue_not_relaunches routing
        (withProposer node { countAck node ack with status := .kMajorityAccepted })
        (chosenMessage node ack) rfl eventType _ delay alone
  · have appended := congrArg Node.calls (handleAck_short routing node ack passes majority)
    rw [and_iff_right majority, Relaunches, Node.callsSince_of_append appended, relaunch]
    have pending : (!(countAck node ack).proposalCounter.isStillPending node.options) = true ↔
        (countAck node ack).proposalCounter.voteCount < node.options.memberCount := by
      simp [ProposalCounter.isStillPending]
    rw [← pending, ← Bool.or_eq_true]
    change _ ↔ ((countAck node ack).proposalCounter.isMajorityRejected node.options ||
      !(countAck node ack).proposalCounter.isStillPending node.options) = true
    split
    · rename_i armed
      exact iff_of_true ⟨_, _, rfl⟩ armed
    · rename_i idle
      refine iff_of_false ?_ idle
      rintro ⟨_, _, none⟩
      simp at none

/-- In an empty ledger nobody has voted. -/
theorem add_nobody (ack : PaxMessage) (vote : Vote) :
    Ledger.add (fun _ => ∅) ack vote = if vote = voteOf ack then {ack.sender} else ∅ := by
  by_cases cast : vote = voteOf ack
  · rw [if_pos cast, cast, Ledger.add, Function.update_self]
    rfl
  · rw [if_neg cast, Ledger.add, Function.update_of_ne cast]

/-- An acknowledgement is a grant of its request or a rejection. -/
theorem voteOf_cases (ack : PaxMessage) :
    ack.rejected = true ∧ voteOf ack = .rejection ∨
      ack.rejected = false ∧ voteOf ack = grantOf ack := by
  cases rejected : ack.rejected with
  | true => exact .inl ⟨rfl, by rw [voteOf, rejected, if_pos rfl]⟩
  | false => exact .inr ⟨rfl, by rw [voteOf, rejected, if_neg Bool.false_ne_true, grantOf]⟩

/-- A grant is no rejection. -/
theorem grantOf_ne_rejection (ack : PaxMessage) : grantOf ack ≠ .rejection := by
  unfold grantOf
  split
  · decide
  · decide

/-- Where a majority takes two votes, the first answer arms the timer exactly when more answers
are expected, which is when the round can still succeed. -/
theorem first_ack_wrong (routing : Routing) (members : Finset NodeId) (node : Node)
    (ack : PaxMessage) (several : 1 < node.options.getMajorityCount)
    (everyone : members.card = node.options.memberCount) (member : ack.sender ∈ members)
    (reset : node.proposer.proposalCounter = {}) (passes : AckPasses node ack) :
    ¬ (Relaunches routing node ack ↔
      Hopeless members node.options (Ledger.add (fun _ => ∅) ack) ack) := by
  have counter := countAck_proposalCounter node ack passes
  rw [reset] at counter
  have one : ∀ vote, ¬ isMajority (countAck node ack).proposalCounter node.options vote = true := by
    intro vote
    have mirrors := mirrors_countAck node (fun _ => ∅) ack passes (reset ▸ mirrors_empty _)
    rw [isMajority_iff, mirrors vote, apply_ite Finset.card, Finset.card_empty,
      Finset.card_singleton]
    split
    · omega
    · omega
  have counts : (countAck node ack).proposalCounter.voteCount = 1 := by
    rw [counter]
    cases voteOf ack with
    | _ => rfl
  have armed : Relaunches routing node ack ↔ 1 < members.card := by
    rw [relaunches_iff routing node ack passes, and_iff_right (one _), or_iff_right (one _), counts,
      everyone]
  have few : ∀ vote, (Ledger.add (fun _ => ∅) ack vote).card ≤ 1 := by
    intro vote
    rw [add_nobody]
    split
    · exact (Finset.card_singleton _).le
    · rw [Finset.card_empty]
      exact Nat.zero_le 1
  have answered : Ledger.add (fun _ => ∅) ack (grantOf ack) ∪
      Ledger.add (fun _ => ∅) ack .rejection = {ack.sender} := by
    rw [add_nobody, add_nobody]
    rcases voteOf_cases ack with ⟨_, cast⟩ | ⟨_, cast⟩
    · rw [cast, if_neg (grantOf_ne_rejection ack), if_pos rfl, Finset.empty_union]
    · rw [cast, if_pos rfl, if_neg (grantOf_ne_rejection ack).symm, Finset.union_empty]
  have hopeless : Hopeless members node.options (Ledger.add (fun _ => ∅) ack) ack ↔
      members.card ≤ 1 := by
    have granted := few (grantOf ack)
    have rejected := few .rejection
    rw [Hopeless, answered, and_iff_right (by omega), or_iff_right (by omega)]
    constructor
    · intro alone
      exact (Finset.card_le_card alone).trans_eq (Finset.card_singleton _)
    · intro alone other present
      rw [Finset.mem_singleton]
      exact Finset.card_le_one.mp alone other present ack.sender member
  rw [armed, hopeless]
  omega

/-- Where one vote is a majority, the timer is armed exactly when the round cannot succeed. -/
theorem relaunchesHopeless_of_single (routing : Routing) (members : Finset NodeId) (node : Node)
    (ledger : Ledger) (acks : List PaxMessage) (single : node.options.getMajorityCount ≤ 1)
    (ungranted : ledger .promise = ∅ ∧ ledger .approval = ∅)
    (mirrors : Mirrors node.getNodeId node.proposer.proposalCounter ledger)
    (pass : AcksPass routing node acks) :
    RelaunchesHopeless routing members node ledger acks := by
  induction acks generalizing node ledger with
  | nil => trivial
  | cons ack acks ih =>
    obtain ⟨passed, later⟩ := pass
    have counting := mirrors_countAck node ledger ack passed mirrors
    have tests := (tests_right_iff _ _ node.options _ counting).mpr (.inl single)
    by_cases majority :
        isMajority (countAck node ack).proposalCounter node.options (grantOf ack) = true
    · have granted := (tests _).mp majority
      constructor
      · refine iff_of_false ?_ fun hopeless => absurd hopeless.1 (not_lt.mpr granted)
        exact fun armed => ((relaunches_iff routing node ack passed).mp armed).1 majority
      · rcases handleAck_granted routing node ack passed majority with
          ⟨cleared, options⟩ | ⟨notPropose, notAccept⟩
        · rw [Ledger.next, if_pos cleared]
          refine ih _ _ (options ▸ single) ⟨rfl, rfl⟩ ?_ later
          rw [cleared]
          exact mirrors_empty _
        · rw [acksPass_settled routing _ acks notPropose notAccept later]
          trivial
    · have few : (ledger.add ack (grantOf ack)).card < node.options.getMajorityCount :=
        not_le.mp ((tests _).not.mp majority)
      have rejects : voteOf ack = .rejection := by
        rcases voteOf_cases ack with ⟨_, cast⟩ | ⟨_, cast⟩
        · exact cast
        · have some := Finset.card_pos.mpr (Finset.nonempty_iff_ne_empty.mpr
            (ledger.add_nonempty ack))
          rw [cast] at some
          omega
      have rejected : node.options.getMajorityCount ≤ (ledger.add ack .rejection).card := by
        have some := Finset.card_pos.mpr (Finset.nonempty_iff_ne_empty.mpr
          (ledger.add_nonempty ack))
        rw [rejects] at some
        omega
      have handled := handleAck_short routing node ack passed majority
      obtain ⟨next, mirrors⟩ := mirrors_kept routing node ledger ack passed mirrors
        (by rw [handled]) (by rw [handled])
      refine ⟨iff_of_true ?_ ⟨few, .inl rejected⟩, ?_⟩
      · exact (relaunches_iff routing node ack passed).mpr
          ⟨majority, .inl ((tests _).mpr rejected)⟩
      · rw [next]
        refine ih _ _ (by rw [handled]; exact single) ?_ mirrors later
        rw [Ledger.add, rejects, Function.update_of_ne (by decide),
          Function.update_of_ne (by decide)]
        exact ungranted

/-- **When a round is abandoned.** The handlers arm a relaunch timer exactly when the round
cannot succeed, at every acknowledgement of a round, precisely where one vote is a majority or
no acknowledgement comes. -/
theorem relaunchesHopeless_iff (routing : Routing) (members : Finset NodeId) (node : Node)
    (acks : List PaxMessage) (everyone : members.card = node.options.memberCount)
    (senders : ∀ ack ∈ acks, ack.sender ∈ members)
    (reset : node.proposer.proposalCounter = {}) (pass : AcksPass routing node acks) :
    RelaunchesHopeless routing members node (fun _ => ∅) acks ↔
      node.options.getMajorityCount ≤ 1 ∨ acks = [] := by
  by_cases single : node.options.getMajorityCount ≤ 1
  · refine iff_of_true ?_ (.inl single)
    exact relaunchesHopeless_of_single routing members node _ acks single ⟨rfl, rfl⟩
      (reset ▸ mirrors_empty _) pass
  · rw [or_iff_right single]
    cases acks with
    | nil => exact iff_of_true trivial rfl
    | cons ack acks =>
      refine iff_of_false (fun right => ?_) (List.cons_ne_nil _ _)
      exact first_ack_wrong routing members node ack (by omega) everyone
        (senders ack List.mem_cons_self) reset pass.1 right.1

/-- The first of three answers is a promise, and the timer is armed. -/
theorem relaunchesHopeless_first_promise :
    ¬ RelaunchesHopeless .source {7, 8, 9} pollingNode (fun _ => ∅) [ballot 8 false] := by
  intro right
  have armed : Relaunches .source pollingNode (ballot 8 false) :=
    ⟨.proposeTimeout, proposeTimeout, by decide +kernel⟩
  have hopeless := right.1.mp armed
  revert hopeless
  decide +kernel

/-- Of two nodes one is a majority: a rejection and then a promise are decided right. -/
theorem relaunchesHopeless_of_two :
    RelaunchesHopeless .source {7, 8} (propose (Node.fresh ⟨7, 1 / 2, 2, 0⟩ 0)) (fun _ => ∅)
      [ballot 8 true, ballot 7 false] :=
  (relaunchesHopeless_iff .source {7, 8} (propose (Node.fresh ⟨7, 1 / 2, 2, 0⟩ 0))
    [ballot 8 true, ballot 7 false] (by decide +kernel) (by decide +kernel) (by decide +kernel)
    ⟨by decide +kernel, by decide +kernel, trivial⟩).mpr (.inl (by decide +kernel))

end PaxProposer
end Paxosme
