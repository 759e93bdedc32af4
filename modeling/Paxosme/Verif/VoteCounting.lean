import Paxosme.Core.Controller

/-!
# Who is counted

A majority is a number of distinct responders. The handlers add the node's own id to the set
of the vote, so a set never holds more than one id, and it is empty exactly when nobody voted
that way since the last reset. What is counted and who voted agree therefore while a majority
is one vote, or while no kind of vote has come from a majority of responders.
-/

namespace Paxosme
namespace PaxProposer

/-- The kinds of vote that a counter keeps apart. -/
inductive Vote where
  | promise
  | approval
  | rejection
  deriving DecidableEq

instance : Fintype Vote where
  elems := {.promise, .approval, .rejection}
  complete vote := by
    cases vote with
    | _ => decide

/-- The vote that an acknowledgement casts. -/
def voteOf (ack : PaxMessage) : Vote :=
  if ack.rejected then .rejection
  else if ack.messageType = .acceptAck then .approval
  else .promise

/-- The ids that a counter holds under a vote. -/
def counted (counter : ProposalCounter) : Vote → Finset NodeId
  | .promise => counter.promises
  | .approval => counter.approvals
  | .rejection => counter.rejections

/-- The test of a counter for a majority of a vote. -/
def isMajority (counter : ProposalCounter) (options : PaxosOptions) : Vote → Bool
  | .promise => counter.isMajorityPromised options
  | .approval => counter.isMajorityAccepted options
  | .rejection => counter.isMajorityRejected options

/-- The counting part of the handler of an acknowledgement. -/
def countAck (node : Node) (ack : PaxMessage) : PaxProposer :=
  match ack.messageType with
  | .acceptAck => countAcceptAck node ack
  | _ => countProposeAck node ack

/-- An acknowledgement that passes the guards of its handler. -/
def AckPasses (node : Node) (ack : PaxMessage) : Prop :=
  ack.messageType = .proposeAck ∧ ¬ Discards .kPropose node ack ∨
    ack.messageType = .acceptAck ∧ ¬ Discards .kAccept node ack

instance (node : Node) (ack : PaxMessage) : Decidable (AckPasses node ack) :=
  inferInstanceAs (Decidable (_ ∨ _))

/-- The handler of the proposer in a controller with some routing. -/
def handleAck (routing : Routing) (node : Node) (ack : PaxMessage) : Node :=
  handleMessage (PaxController.processChosenValue routing) node ack

/-- Each acknowledgement passes the guards of its handler when its turn comes. -/
def AcksPass (routing : Routing) (node : Node) : List PaxMessage → Prop
  | [] => True
  | ack :: acks => AckPasses node ack ∧ AcksPass routing (handleAck routing node ack) acks

/-- The senders of each vote since the last reset. -/
abbrev Ledger := Vote → Finset NodeId

/-- The ledger with the sender of one more acknowledgement. -/
def Ledger.add (ledger : Ledger) (ack : PaxMessage) : Ledger :=
  Function.update ledger (voteOf ack) (insert ack.sender (ledger (voteOf ack)))

/-- The ledger after an acknowledgement is handled. A handler that has just counted a vote
leaves the counter empty only by a reset. -/
def Ledger.next (ledger : Ledger) (after : Node) (ack : PaxMessage) : Ledger :=
  if after.proposer.proposalCounter = {} then fun _ => ∅ else ledger.add ack

/-- Whenever an acknowledgement has been counted, the three tests hold exactly when the
senders of the vote since the last reset are a majority. -/
def CountsResponders (routing : Routing) (node : Node) (ledger : Ledger) :
    List PaxMessage → Prop
  | [] => True
  | ack :: acks =>
    (∀ vote, isMajority (countAck node ack).proposalCounter node.options vote = true ↔
      node.options.getMajorityCount ≤ (ledger.add ack vote).card) ∧
    CountsResponders routing (handleAck routing node ack)
      (ledger.next (handleAck routing node ack) ack) acks

/-- The distinct senders of a vote among some acknowledgements. -/
def responders (acks : List PaxMessage) (vote : Vote) : Finset NodeId :=
  ((acks.filter fun ack => voteOf ack = vote).map PaxMessage.sender).toFinset

/-- One vote is a majority, or no vote comes from a majority of responders. -/
def NoMajorityOfResponders (options : PaxosOptions) (acks : List PaxMessage) : Prop :=
  options.getMajorityCount ≤ 1 ∨
    ∀ vote, (responders acks vote).card < options.getMajorityCount

/-- The test of a vote compares the ids under it with the majority. -/
theorem isMajority_iff (counter : ProposalCounter) (options : PaxosOptions) (vote : Vote) :
    isMajority counter options vote = true ↔
      options.getMajorityCount ≤ (counted counter vote).card := by
  cases vote with
  | promise => exact decide_eq_true_iff
  | approval => exact decide_eq_true_iff
  | rejection => exact decide_eq_true_iff

/-- One vote cast under an id. -/
def addVote (counter : ProposalCounter) (nodeId : NodeId) : Vote → ProposalCounter
  | .promise => counter.addPromise nodeId
  | .approval => counter.addAccept nodeId
  | .rejection => counter.addRejection nodeId

/-- An id that is already counted is not counted again. -/
theorem addVote_of_counted (counter : ProposalCounter) (nodeId : NodeId) (cast : Vote)
    (present : nodeId ∈ counted counter cast) : addVote counter nodeId cast = counter := by
  cases cast with
  | promise => exact if_pos present
  | approval => exact if_pos present
  | rejection => exact if_pos present

/-- A vote enters its own set and no other. -/
theorem counted_addVote (counter : ProposalCounter) (nodeId : NodeId) (cast vote : Vote) :
    counted (addVote counter nodeId cast) vote =
      if vote = cast then insert nodeId (counted counter vote) else counted counter vote := by
  by_cases present : nodeId ∈ counted counter cast
  · rw [addVote_of_counted counter nodeId cast present]
    split
    · rename_i same
      rw [same, Finset.insert_eq_of_mem present]
    · rfl
  · cases cast with
    | promise =>
      have absent : nodeId ∉ counter.promises := present
      rw [addVote, ProposalCounter.addPromise, if_neg absent]
      cases vote with
      | _ => rfl
    | approval =>
      have absent : nodeId ∉ counter.approvals := present
      rw [addVote, ProposalCounter.addAccept, if_neg absent]
      cases vote with
      | _ => rfl
    | rejection =>
      have absent : nodeId ∉ counter.rejections := present
      rw [addVote, ProposalCounter.addRejection, if_neg absent]
      cases vote with
      | _ => rfl

/-- A vote leaves the counter exactly when its id is already counted. -/
theorem addVote_eq_self_iff (counter : ProposalCounter) (nodeId : NodeId) (cast : Vote) :
    addVote counter nodeId cast = counter ↔ nodeId ∈ counted counter cast := by
  refine ⟨fun same => ?_, addVote_of_counted counter nodeId cast⟩
  have held := counted_addVote counter nodeId cast cast
  rw [same, if_pos rfl] at held
  rw [held]
  exact Finset.mem_insert_self _ _

/-- Counting an acknowledgement adds the node's own id under its vote. -/
theorem countAck_proposalCounter (node : Node) (ack : PaxMessage) (passes : AckPasses node ack) :
    (countAck node ack).proposalCounter =
      addVote node.proposer.proposalCounter node.getNodeId (voteOf ack) := by
  have kinds : ack.messageType = .proposeAck ∨ ack.messageType = .acceptAck :=
    passes.imp And.left And.left
  rcases kinds with kind | kind
  · cases rejected : ack.rejected with
    | false => simp [countAck, kind, countProposeAck, voteOf, rejected, addVote]
    | true => simp [countAck, kind, countProposeAck, voteOf, rejected, addVote]
  · cases rejected : ack.rejected with
    | false => simp [countAck, kind, countAcceptAck, voteOf, rejected, addVote]
    | true => simp [countAck, kind, countAcceptAck, voteOf, rejected, addVote]

/-- A counter holds one id under each vote that the ledger knows a sender of, and nothing
under the others. -/
def Mirrors (nodeId : NodeId) (counter : ProposalCounter) (ledger : Ledger) : Prop :=
  ∀ vote, counted counter vote = if ledger vote = ∅ then ∅ else {nodeId}

/-- The empty counter mirrors the empty ledger. -/
theorem mirrors_empty (nodeId : NodeId) : Mirrors nodeId {} fun _ => ∅ := by
  intro vote
  rw [if_pos rfl]
  cases vote with
  | _ => rfl

/-- A ledger knows a sender of the vote just added. -/
theorem Ledger.add_nonempty (ledger : Ledger) (ack : PaxMessage) :
    ledger.add ack (voteOf ack) ≠ ∅ := by
  rw [Ledger.add, Function.update_self]
  exact Finset.insert_ne_empty _ _

/-- Counting an acknowledgement keeps the counter a mirror of the ledger. -/
theorem mirrors_countAck (node : Node) (ledger : Ledger) (ack : PaxMessage)
    (passes : AckPasses node ack)
    (mirrors : Mirrors node.getNodeId node.proposer.proposalCounter ledger) :
    Mirrors node.getNodeId (countAck node ack).proposalCounter (ledger.add ack) := by
  intro vote
  rw [countAck_proposalCounter node ack passes, counted_addVote, mirrors vote]
  by_cases cast : vote = voteOf ack
  · rw [if_pos cast, cast, if_neg (ledger.add_nonempty ack)]
    split
    · rfl
    · exact Finset.insert_eq_of_mem (Finset.mem_singleton_self _)
  · rw [if_neg cast, Ledger.add, Function.update_of_ne cast]

/-- A counter that has just counted a vote is not empty. -/
theorem countAck_nonempty (node : Node) (ack : PaxMessage) (passes : AckPasses node ack) :
    (countAck node ack).proposalCounter ≠ {} := by
  intro empty
  have held := counted_addVote node.proposer.proposalCounter node.getNodeId (voteOf ack)
    (voteOf ack)
  rw [if_pos rfl, ← countAck_proposalCounter node ack passes, empty] at held
  have nothing : counted {} (voteOf ack) = ∅ := mirrors_empty node.getNodeId (voteOf ack)
  exact Finset.insert_ne_empty _ _ (held.symm.trans nothing)

/-- The tests of a mirror are right exactly where one vote is a majority, or no vote comes
from a majority of senders. -/
theorem tests_right_iff (nodeId : NodeId) (counter : ProposalCounter) (options : PaxosOptions)
    (ledger : Ledger) (mirrors : Mirrors nodeId counter ledger) :
    (∀ vote, isMajority counter options vote = true ↔
        options.getMajorityCount ≤ (ledger vote).card) ↔
      options.getMajorityCount ≤ 1 ∨ ∀ vote, (ledger vote).card < options.getMajorityCount := by
  have card : ∀ vote, (counted counter vote).card = if ledger vote = ∅ then 0 else 1 := by
    intro vote
    rw [mirrors vote, apply_ite Finset.card, Finset.card_empty, Finset.card_singleton]
  have some : ∀ vote, ledger vote ≠ ∅ → 1 ≤ (ledger vote).card := fun vote nonempty =>
    Finset.card_pos.mpr (Finset.nonempty_iff_ne_empty.mpr nonempty)
  constructor
  · intro right
    by_cases single : options.getMajorityCount ≤ 1
    · exact .inl single
    · refine .inr fun vote => ?_
      by_contra enough
      have test := (right vote).mpr (by omega)
      rw [isMajority_iff, card] at test
      split at test
      · omega
      · omega
  · intro condition vote
    rw [isMajority_iff, card]
    by_cases nobody : ledger vote = ∅
    · rw [if_pos nobody, nobody, Finset.card_empty]
    · rw [if_neg nobody]
      have voted := some vote nobody
      rcases condition with single | short
      · omega
      · have few := short vote
        omega

/-- The vote that grants the request which an acknowledgement answers. -/
def grantOf (ack : PaxMessage) : Vote :=
  if ack.messageType = .acceptAck then .approval else .promise

/-- The timer of the phase of an acknowledgement. -/
def timerOf (ack : PaxMessage) : EventType :=
  if ack.messageType = .acceptAck then .acceptTimeout else .proposeTimeout

/-- The delay of that timer. -/
def delayOf (ack : PaxMessage) : Millisec :=
  if ack.messageType = .acceptAck then acceptTimeout else proposeTimeout

/-- A counted acknowledgement short of a majority of grants leaves the counted votes, and may
arm the timer of its phase. -/
theorem handleAck_short (routing : Routing) (node : Node) (ack : PaxMessage)
    (passes : AckPasses node ack)
    (short : ¬ isMajority (countAck node ack).proposalCounter node.options (grantOf ack) = true) :
    handleAck routing node ack =
      { node with
        proposer := countAck node ack
        calls := node.calls ++ relaunch (countAck node ack).proposalCounter node.options
          (timerOf ack) (delayOf ack) ack } := by
  rcases passes with ⟨kind, passed⟩ | ⟨kind, passed⟩
  · simp only [countAck, grantOf, timerOf, delayOf, kind, reduceCtorEq, if_false] at short ⊢
    simp only [handleAck, handleMessage, kind]
    exact handleProposeAck_counted node ack passed short
  · simp only [countAck, grantOf, timerOf, delayOf, kind, if_true] at short ⊢
    simp only [handleAck, handleMessage, kind]
    exact handleAcceptAck_counted _ node ack passed short

/-- A majority of promises starts the round again. -/
theorem handleAck_promised (routing : Routing) (node : Node) (ack : PaxMessage)
    (kind : ack.messageType = .proposeAck) (passed : ¬ Discards .kPropose node ack)
    (majority : isMajority (countAck node ack).proposalCounter node.options (grantOf ack) = true) :
    handleAck routing node ack = propose (withProposer node (countAck node ack)) := by
  simp only [countAck, grantOf, kind, reduceCtorEq, if_false] at majority ⊢
  simp only [handleAck, handleMessage, kind]
  exact handleProposeAck_majority node ack passed majority

/-- A majority of approvals hands the notification over. -/
theorem handleAck_approved (routing : Routing) (node : Node) (ack : PaxMessage)
    (kind : ack.messageType = .acceptAck) (passed : ¬ Discards .kAccept node ack)
    (majority : isMajority (countAck node ack).proposalCounter node.options (grantOf ack) = true) :
    handleAck routing node ack =
      PaxController.processChosenValue routing
        (withProposer node { countAck node ack with status := .kMajorityAccepted })
        (chosenMessage node ack) := by
  simp only [countAck, grantOf, kind, if_true] at majority ⊢
  simp only [handleAck, handleMessage, kind]
  exact handleAcceptAck_majority _ node ack passed majority

/-- A majority of grants clears the counter, or ends the phases in which votes are counted. -/
theorem handleAck_granted (routing : Routing) (node : Node) (ack : PaxMessage)
    (passes : AckPasses node ack)
    (majority : isMajority (countAck node ack).proposalCounter node.options (grantOf ack) = true) :
    (handleAck routing node ack).proposer.proposalCounter = {} ∧
        (handleAck routing node ack).options = node.options ∨
      (handleAck routing node ack).proposer.status ≠ .kPropose ∧
        (handleAck routing node ack).proposer.status ≠ .kAccept := by
  rcases passes with ⟨kind, passed⟩ | ⟨kind, passed⟩
  · rw [handleAck_promised routing node ack kind passed majority, propose_eq]
    exact .inl ⟨rfl, rfl⟩
  · rw [handleAck_approved routing node ack kind passed majority]
    rcases PaxController.processChosenValue_status routing
        (withProposer node { countAck node ack with status := .kMajorityAccepted })
        (chosenMessage node ack) rfl with kept | cleared
    · right
      rw [kept]
      simp [withProposer]
    · right
      rw [cleared]
      decide

/-- What handling an acknowledgement does with the counter: it keeps the count, or a majority
clears it, or a majority ends the phases in which votes are counted. -/
theorem handleAck_outcome (routing : Routing) (node : Node) (ack : PaxMessage)
    (passes : AckPasses node ack) :
    (handleAck routing node ack).proposer.proposalCounter =
        (countAck node ack).proposalCounter ∧
        (handleAck routing node ack).options = node.options ∨
      (∃ vote, isMajority (countAck node ack).proposalCounter node.options vote = true) ∧
        ((handleAck routing node ack).proposer.proposalCounter = {} ∧
            (handleAck routing node ack).options = node.options ∨
          (handleAck routing node ack).proposer.status ≠ .kPropose ∧
            (handleAck routing node ack).proposer.status ≠ .kAccept) := by
  by_cases majority :
      isMajority (countAck node ack).proposalCounter node.options (grantOf ack) = true
  · exact .inr ⟨⟨grantOf ack, majority⟩, handleAck_granted routing node ack passes majority⟩
  · rw [handleAck_short routing node ack passes majority]
    exact .inl ⟨rfl, rfl⟩

/-- Nothing passes the guards outside the two phases. -/
theorem acksPass_settled (routing : Routing) (node : Node) (acks : List PaxMessage)
    (notPropose : node.proposer.status ≠ .kPropose) (notAccept : node.proposer.status ≠ .kAccept)
    (pass : AcksPass routing node acks) : acks = [] := by
  cases acks with
  | nil => rfl
  | cons ack acks =>
    rcases pass.1 with ⟨_, passed⟩ | ⟨_, passed⟩
    · exact absurd (.inl notPropose) passed
    · exact absurd (.inl notAccept) passed

/-- The count that is kept mirrors the ledger with the vote. -/
theorem mirrors_kept (routing : Routing) (node : Node) (ledger : Ledger) (ack : PaxMessage)
    (passes : AckPasses node ack)
    (mirrors : Mirrors node.getNodeId node.proposer.proposalCounter ledger)
    (kept : (handleAck routing node ack).proposer.proposalCounter =
      (countAck node ack).proposalCounter)
    (options : (handleAck routing node ack).options = node.options) :
    ledger.next (handleAck routing node ack) ack = ledger.add ack ∧
      Mirrors (handleAck routing node ack).getNodeId
        (handleAck routing node ack).proposer.proposalCounter (ledger.add ack) := by
  constructor
  · rw [Ledger.next, kept, if_neg (countAck_nonempty node ack passes)]
  · rw [Node.getNodeId, options, kept]
    exact mirrors_countAck node ledger ack passes mirrors

/-- Where one vote is a majority, the tests are right throughout. -/
theorem countsResponders_of_single (routing : Routing) (node : Node) (ledger : Ledger)
    (acks : List PaxMessage) (single : node.options.getMajorityCount ≤ 1)
    (mirrors : Mirrors node.getNodeId node.proposer.proposalCounter ledger)
    (pass : AcksPass routing node acks) : CountsResponders routing node ledger acks := by
  induction acks generalizing node ledger with
  | nil => trivial
  | cons ack acks ih =>
    obtain ⟨passed, later⟩ := pass
    have counting := mirrors_countAck node ledger ack passed mirrors
    refine ⟨(tests_right_iff _ _ node.options _ counting).mpr (.inl single), ?_⟩
    rcases handleAck_outcome routing node ack passed with
      ⟨kept, options⟩ | ⟨_, ⟨cleared, options⟩ | ⟨notPropose, notAccept⟩⟩
    · obtain ⟨next, mirrors⟩ := mirrors_kept routing node ledger ack passed mirrors kept options
      rw [next]
      exact ih _ _ (options ▸ single) mirrors later
    · rw [Ledger.next, if_pos cleared]
      refine ih _ _ (options ▸ single) ?_ later
      rw [cleared]
      exact mirrors_empty _
    · rw [acksPass_settled routing _ acks notPropose notAccept later]
      trivial

/-- Adding a vote to the ledger or leaving it among the votes to come is the same. -/
theorem add_union_responders (ledger : Ledger) (ack : PaxMessage) (acks : List PaxMessage)
    (vote : Vote) :
    ledger.add ack vote ∪ responders acks vote = ledger vote ∪ responders (ack :: acks) vote := by
  by_cases cast : voteOf ack = vote
  · subst cast
    simp [Ledger.add, responders]
  · simp [Ledger.add, responders, cast, Function.update_of_ne (Ne.symm cast)]

/-- Where a majority takes two votes, no count reaches it, and the tests are right exactly
while no vote comes from a majority of senders. -/
theorem countsResponders_iff_of_several (routing : Routing) (node : Node) (ledger : Ledger)
    (acks : List PaxMessage) (several : 1 < node.options.getMajorityCount)
    (mirrors : Mirrors node.getNodeId node.proposer.proposalCounter ledger)
    (short : ∀ vote, (ledger vote).card < node.options.getMajorityCount)
    (pass : AcksPass routing node acks) :
    CountsResponders routing node ledger acks ↔
      ∀ vote, (ledger vote ∪ responders acks vote).card < node.options.getMajorityCount := by
  induction acks generalizing node ledger with
  | nil =>
    have nobody : ∀ vote, responders [] vote = ∅ := fun _ => rfl
    simp only [CountsResponders, nobody, Finset.union_empty, true_iff]
    exact short
  | cons ack acks ih =>
    obtain ⟨passed, later⟩ := pass
    have counting := mirrors_countAck node ledger ack passed mirrors
    have tests := tests_right_iff _ _ node.options _ counting
    rw [or_iff_right (by omega)] at tests
    simp only [← add_union_responders]
    rw [CountsResponders, tests]
    by_cases few : ∀ vote, (ledger.add ack vote).card < node.options.getMajorityCount
    · have none : ¬ ∃ vote,
          isMajority (countAck node ack).proposalCounter node.options vote = true := by
        rintro ⟨vote, majority⟩
        have enough := (tests.mpr few vote).mp majority
        exact absurd (few vote) (by omega)
      obtain ⟨kept, options⟩ :=
        (handleAck_outcome routing node ack passed).resolve_right fun outcome => none outcome.1
      obtain ⟨next, mirrors⟩ := mirrors_kept routing node ledger ack passed mirrors kept options
      rw [next, and_iff_right few, ih _ _ (options ▸ several) mirrors (options ▸ few) later,
        options]
    · refine iff_of_false (fun right => few right.1) fun all => few fun vote => ?_
      exact lt_of_le_of_lt (Finset.card_le_card Finset.subset_union_left) (all vote)

/-- The tests hold for the distinct responders throughout a round exactly where one vote is a
majority or no vote comes from a majority of responders. -/
theorem countsResponders_iff (routing : Routing) (node : Node) (acks : List PaxMessage)
    (reset : node.proposer.proposalCounter = {}) (pass : AcksPass routing node acks) :
    CountsResponders routing node (fun _ => ∅) acks ↔
      NoMajorityOfResponders node.options acks := by
  have mirrors : Mirrors node.getNodeId node.proposer.proposalCounter fun _ => ∅ := by
    rw [reset]
    exact mirrors_empty _
  rw [NoMajorityOfResponders]
  by_cases single : node.options.getMajorityCount ≤ 1
  · exact iff_of_true (countsResponders_of_single routing node _ acks single mirrors pass)
      (.inl single)
  · rw [or_iff_right single, countsResponders_iff_of_several routing node _ acks (by omega)
      mirrors (fun _ => by rw [Finset.card_empty]; omega) pass]
    simp only [Finset.empty_union]

/-- Node seven of three has started its first round; a majority is two votes. -/
def pollingNode : Node := propose (Node.fresh ⟨7, 1 / 2, 3, 0⟩ 0)

/-- A vote on the first round of node seven. -/
def ballot (sender : NodeId) (rejected : Bool) : PaxMessage :=
  { PaxMessage.new sender .proposeAck with proposalId := 1, proposingNodeId := 7, rejected }

/-- Two promises from two responders are counted as one. -/
theorem countsResponders_two_promises :
    ¬ CountsResponders .source pollingNode (fun _ => ∅) [ballot 8 false, ballot 9 false] := by
  intro right
  have second := right.2.1 .promise
  revert second
  decide +kernel

/-- One promise and one rejection are counted right. -/
theorem countsResponders_promise_rejection :
    CountsResponders .source pollingNode (fun _ => ∅) [ballot 8 false, ballot 9 true] :=
  (countsResponders_iff .source pollingNode [ballot 8 false, ballot 9 true] rfl
    ⟨by decide +kernel, by decide +kernel, trivial⟩).mpr
    (.inr (by decide +kernel))

end PaxProposer
end Paxosme
