import Paxosme.Verif.PhaseOrder
import Paxosme.Verif.VoteCounting
import Paxosme.Lib.Runs

/-!
# The next round outbids the rejections

A rejection leaves two traces: its promised number is offered to the highest known one, and
the rejection set is no longer empty. The first is lost only with the instance and the second
only with the counter, so as long as rejections are remembered the highest known number is
above each of them, and the next call of `Propose` draws a number above all of them.
-/

namespace Paxosme
namespace PaxProposer

open WordOrder

/-- What moves a proposer that may also be told to accept. -/
inductive Move where
  | input (input : Input)
  | accept

/-- One move of a proposer in a controller with some routing. -/
def move (routing : Routing) (node : Node) : Move → Node
  | .input input => step routing node input
  | .accept => accept node

/-- The proposer as a move finds it, after the acknowledgement it may bring is counted. -/
def counting (node : Node) : Move → PaxProposer
  | .input (.message ack) => if AckPasses node ack then countAck node ack else node.proposer
  | _ => node.proposer

/-- The rejections that a move counts. -/
def rejectionsOf (node : Node) : Move → List PaxMessage
  | .input (.message ack) => if AckPasses node ack ∧ ack.rejected then [ack] else []
  | _ => []

/-- A move calls `Propose`: a value is flushed, the timer of the current instance fires, or an
acknowledgement shows a majority of promises. -/
def Proposes (node : Node) : Move → Prop
  | .input (.newValue flushed _) => flushed.isSome
  | .input (.proposeTimeout instanceId) => instanceId = node.instanceId
  | .input (.message ack) =>
    ack.messageType = .proposeAck ∧ ¬ Discards .kPropose node ack ∧ ObservesMajority node ack
  | _ => False

instance (node : Node) : ∀ move, Decidable (Proposes node move)
  | .input (.newValue flushed _) => inferInstanceAs (Decidable (flushed.isSome = true))
  | .input (.proposeTimeout instanceId) =>
    inferInstanceAs (Decidable (instanceId = node.instanceId))
  | .input (.message ack) =>
    inferInstanceAs (Decidable (ack.messageType = .proposeAck ∧ ¬ Discards .kPropose node ack ∧
      ObservesMajority node ack))
  | .input .newValueTimeout => .isFalse not_false
  | .input .nextInstance => .isFalse not_false
  | .accept => .isFalse not_false

/-- A proposer with the rejections that it counted since the last reset of its counter. -/
structure Bidder where
  /-- The node of the proposer. -/
  node : Node
  /-- The rejections since the last reset, oldest first. -/
  rejections : List PaxMessage

namespace Bidder

/-- The proposer as it is initialized. -/
def start (options : PaxosOptions) (instanceId : InstanceId) (acceptor : AcceptorState)
    (storage : PaxStore) (proposalId : ProposalId) : Bidder :=
  ⟨initialized options instanceId acceptor storage proposalId, []⟩

/-- The rejections since the last reset that `Propose` finds when a move calls it. -/
def pending (bidder : Bidder) (move : Move) : List PaxMessage :=
  bidder.rejections ++ rejectionsOf bidder.node move

/-- A move, with its rejection remembered. A counter in which nothing is counted has been
reset. -/
def step (routing : Routing) (bidder : Bidder) (move : Move) : Bidder :=
  let after := PaxProposer.move routing bidder.node move
  ⟨after, if after.proposer.proposalCounter = {} then [] else bidder.pending move⟩

/-- The own number of the proposer. -/
def number (bidder : Bidder) : ProposalId := bidder.node.proposer.proposerState.myProposalId

/-- The own number is below the last word, and so is every number that a rejection reports. -/
def Bounded (bidder : Bidder) (move : Move) : Prop :=
  bidder.number < 0xFFFFFFFFFFFFFFFF ∧
    ∀ rejection ∈ rejectionsOf bidder.node move,
      rejection.promisedProposalId < 0xFFFFFFFFFFFFFFFF

instance (bidder : Bidder) (move : Move) : Decidable (Bounded bidder move) :=
  inferInstanceAs (Decidable (_ ∧ _))

end Bidder

/-- A number outbids a rejection: it is above the number reported, and with the node's id it
passes the test of every acceptor that still holds the promise reported. -/
def Outbids (proposer : NodeId) (number : ProposalId) (rejection : PaxMessage) : Prop :=
  rejection.promisedProposalId < number ∧
    ∀ acceptor : Node, acceptor.acceptor.promisedProposalId = rejection.promisedProposalId →
      acceptor.acceptor.promisedNodeId = rejection.promisedNodeId →
      PaxAcceptor.isHigherThanPromised acceptor proposer number = true

/-- A number above the number reported outbids the rejection. -/
theorem outbids_of_lt (proposer : NodeId) (number : ProposalId) (rejection : PaxMessage)
    (above : rejection.promisedProposalId < number) : Outbids proposer number rejection := by
  refine ⟨above, fun acceptor number _ => ?_⟩
  rw [PaxAcceptor.isHigherThanPromised, decide_eq_true_iff, number]
  exact .inl above

/-- Counting an acknowledgement leaves the own number. -/
theorem countAck_myProposalId (node : Node) (ack : PaxMessage) :
    (countAck node ack).proposerState.myProposalId =
      node.proposer.proposerState.myProposalId := by
  unfold countAck
  split
  · unfold countAcceptAck
    split
    · rfl
    · exact ProposerState.myProposalId_tryUpdateHighestProposalId _ _ _
  · exact countProposeAck_myProposalId node ack

/-- A counted rejection offers the number it reports to the highest known one. -/
theorem countAck_known_rejected (node : Node) (ack : PaxMessage) (rejected : ack.rejected = true) :
    (countAck node ack).proposerState.highestKnownProposal =
      max node.proposer.proposerState.highestKnownProposal ack.promisedProposalId := by
  have offered := node.proposer.proposerState.highestKnown_tryUpdateHighestProposalId
    ack.promisedProposalId ack.promisedNodeId
  unfold countAck
  split
  · simpa [countAcceptAck, rejected] using offered
  · simpa [countProposeAck, rejected] using offered

/-- A counted grant offers at most the own number, as its guards compared it. -/
theorem countAck_known_granted (node : Node) (ack : PaxMessage) (granted : ack.rejected = false)
    (passes : AckPasses node ack) :
    node.proposer.proposerState.highestKnownProposal ≤
        (countAck node ack).proposerState.highestKnownProposal ∧
      (countAck node ack).proposerState.highestKnownProposal ≤
        max node.proposer.proposerState.highestKnownProposal
          node.proposer.proposerState.myProposalId := by
  rcases passes with ⟨kind, passed⟩ | ⟨kind, _⟩
  · have number := ((not_discards_iff _ _ _).mp passed).2.2
    have offered := node.proposer.proposerState.highestKnown_tryUpdateLogValue ack.proposalId
      ack.proposingNodeId ack.acceptedValue
    have counts : (countAck node ack).proposerState.highestKnownProposal =
        max node.proposer.proposerState.highestKnownProposal ack.proposalId := by
      simpa [countAck, kind, countProposeAck, granted,
        tryUpdateProposerStateWithPrepareReply] using offered
    rw [counts, number]
    exact ⟨le_max_left _ _, le_rfl⟩
  · have counts : (countAck node ack).proposerState = node.proposer.proposerState := by
      simp [countAck, kind, countAcceptAck, granted]
    rw [counts]
    exact ⟨le_rfl, le_max_left _ _⟩

/-- A counted rejection is remembered by the counter, and nothing counted is forgotten. -/
theorem countAck_rejections (node : Node) (ack : PaxMessage) (passes : AckPasses node ack)
    (some : node.proposer.proposalCounter.rejections ≠ ∅ ∨ ack.rejected = true) :
    (countAck node ack).proposalCounter.rejections ≠ ∅ := by
  have held := counted_addVote node.proposer.proposalCounter node.getNodeId (voteOf ack) .rejection
  rw [← countAck_proposalCounter node ack passes] at held
  change (countAck node ack).proposalCounter.rejections = _ at held
  rw [held]
  split
  · exact Finset.insert_ne_empty _ _
  · rename_i other
    rcases some with earlier | rejected
    · exact earlier
    · exact absurd (by rw [voteOf, rejected, if_pos rfl]) other

/-- The re-entrant call leaves the proposer, or resets it with the instance. -/
theorem processChosenValue_proposer (routing : Routing) (node : Node) (message : PaxMessage)
    (chosen : message.messageType = .valueChosen) :
    (PaxController.processChosenValue routing node message).proposer = node.proposer ∨
      (PaxController.processChosenValue routing node message).proposer =
        { status := .kNone
          proposalCounter := {}
          proposerState := node.proposer.proposerState.reset } := by
  let inner := PaxController.dispatch routing (fun node _ => node) node message
  have kept : inner.proposer = node.proposer :=
    PaxController.dispatch_chosen routing _ node message chosen
  unfold PaxController.processChosenValue PaxController.handleMessageBody
  split
  · exact .inl rfl
  · cases blocked : inner.blocked with
    | true => exact .inl (by rw [PaxController.finish_blocked inner blocked, kept])
    | false =>
      cases learned : inner.learner.learnerState.learned with
      | true => exact .inr (by rw [PaxController.finish_learned inner blocked learned, kept])
      | false => exact .inl (by rw [PaxController.finish_unlearned inner learned, kept])

/-- A move ends with the votes and the knowledge that it counted, or with an empty counter; the
highest known number never grows beyond the count. -/
structure Follows (counted after : PaxProposer) : Prop where
  /-- The votes, and while they are kept the highest known number. -/
  counter : after.proposalCounter = {} ∨
    after.proposalCounter = counted.proposalCounter ∧
      after.proposerState.highestKnownProposal = counted.proposerState.highestKnownProposal
  /-- The highest known number. -/
  known : after.proposerState.highestKnownProposal ≤ counted.proposerState.highestKnownProposal

/-- A round is started on the knowledge of the count. -/
theorem startRound_follows (proposer : PaxProposer) : Follows proposer (startRound proposer) := by
  refine ⟨.inl rfl, ?_⟩
  unfold startRound
  split
  · exact le_rfl
  · exact le_rfl

/-- An acknowledgement that passes the guards is counted. -/
theorem counting_passes (node : Node) (ack : PaxMessage) (passes : AckPasses node ack) :
    counting node (.input (.message ack)) = countAck node ack := if_pos passes

/-- An acknowledgement of a proposal, handled. -/
theorem handleProposeAck_follows (node : Node) (ack : PaxMessage)
    (kind : ack.messageType = .proposeAck) :
    Follows (counting node (.input (.message ack))) (handleProposeAck node ack).proposer := by
  by_cases discarded : Discards .kPropose node ack
  · have ignored : ¬ AckPasses node ack := by
      rintro (⟨_, passed⟩ | ⟨other, _⟩)
      · exact passed discarded
      · rw [kind] at other
        exact absurd other (by decide)
    rw [handleProposeAck_discarded node ack discarded, counting, if_neg ignored]
    exact ⟨.inr ⟨rfl, rfl⟩, le_rfl⟩
  · have counts : countAck node ack = countProposeAck node ack := by simp only [countAck, kind]
    rw [counting_passes node ack (.inl ⟨kind, discarded⟩), counts]
    by_cases majority : ObservesMajority node ack
    · rw [handleProposeAck_majority node ack discarded majority, propose_eq]
      exact startRound_follows _
    · rw [handleProposeAck_counted node ack discarded majority]
      exact ⟨.inr ⟨rfl, rfl⟩, le_rfl⟩

/-- An acknowledgement of an accept request, handled. -/
theorem handleAcceptAck_follows (routing : Routing) (node : Node) (ack : PaxMessage)
    (kind : ack.messageType = .acceptAck) :
    Follows (counting node (.input (.message ack)))
      (handleAcceptAck (PaxController.processChosenValue routing) node ack).proposer := by
  by_cases discarded : Discards .kAccept node ack
  · have ignored : ¬ AckPasses node ack := by
      rintro (⟨other, _⟩ | ⟨_, passed⟩)
      · rw [kind] at other
        exact absurd other (by decide)
      · exact passed discarded
    rw [handleAcceptAck_discarded _ node ack discarded, counting, if_neg ignored]
    exact ⟨.inr ⟨rfl, rfl⟩, le_rfl⟩
  · have counts : countAck node ack = countAcceptAck node ack := by simp only [countAck, kind]
    rw [counting_passes node ack (.inr ⟨kind, discarded⟩), counts]
    by_cases majority :
        (countAcceptAck node ack).proposalCounter.isMajorityAccepted node.options = true
    · rw [handleAcceptAck_majority _ node ack discarded majority]
      rcases processChosenValue_proposer routing
          (withProposer node { countAcceptAck node ack with status := .kMajorityAccepted })
          (chosenMessage node ack) rfl with kept | cleared
      · rw [kept]
        exact ⟨.inr ⟨rfl, rfl⟩, le_rfl⟩
      · rw [cleared]
        exact ⟨.inl rfl, zero_le _⟩
    · rw [handleAcceptAck_counted _ node ack discarded majority]
      exact ⟨.inr ⟨rfl, rfl⟩, le_rfl⟩

/-- The proposer with the value handed over, unless it has one. -/
def named (node : Node) (value : LogValue) : PaxProposer :=
  { node.proposer with
    proposerState := if node.proposer.proposerState.logValue.isEmpty then
        node.proposer.proposerState.setLogValue value
      else node.proposer.proposerState }

/-- A value handed over moves neither number. -/
theorem named_knowledge (node : Node) (value : LogValue) :
    (named node value).proposerState.myProposalId = node.proposer.proposerState.myProposalId ∧
      (named node value).proposerState.highestKnownProposal =
        node.proposer.proposerState.highestKnownProposal := by
  unfold named
  dsimp only
  split
  · exact ⟨rfl, rfl⟩
  · exact ⟨rfl, rfl⟩

/-- A flushed value starts a round. -/
theorem newValue_proposer (node : Node) (value : LogValue) (timeout : Millisec) :
    (newValue node (some value) timeout).proposer = startRound (named node value) := by
  rw [newValue, propose_eq]
  rfl

/-- Every move follows its count. -/
theorem move_follows (routing : Routing) (node : Node) (next : Move) :
    Follows (counting node next) (move routing node next).proposer := by
  cases next with
  | accept =>
    rw [move, accept_eq]
    exact ⟨.inl rfl, le_rfl⟩
  | input input =>
    cases input with
    | newValue flushed timeout =>
      cases flushed with
      | none => exact ⟨.inr ⟨rfl, rfl⟩, le_rfl⟩
      | some value =>
        have started := (startRound_follows (named node value)).known
        rw [(named_knowledge node value).2] at started
        rw [move, step, newValue_proposer]
        exact ⟨.inl rfl, started⟩
    | message ack =>
      simp only [move, step, handleMessage]
      split
      · rename_i kind
        exact handleProposeAck_follows node ack kind
      · rename_i kind
        exact handleAcceptAck_follows routing node ack kind
      · rename_i notPropose notAccept
        rw [counting, if_neg]
        · exact ⟨.inr ⟨rfl, rfl⟩, le_rfl⟩
        · rintro (⟨kind, _⟩ | ⟨kind, _⟩)
          · exact notPropose kind
          · exact notAccept kind
    | proposeTimeout instanceId =>
      simp only [move, step, proposeTimeoutCallback]
      split
      · exact ⟨.inr ⟨rfl, rfl⟩, le_rfl⟩
      · rw [propose_eq]
        exact startRound_follows _
    | newValueTimeout =>
      simp only [move, step, newValueTimeoutCallback]
      split
      · exact ⟨.inr ⟨rfl, rfl⟩, le_rfl⟩
      · exact ⟨.inr ⟨rfl, rfl⟩, le_rfl⟩
    | nextInstance => exact ⟨.inl rfl, zero_le _⟩

/-- The number that a proposer draws is above its own and the highest known one. -/
theorem startRound_outbids (proposer : PaxProposer)
    (rejected : proposer.proposalCounter.rejections ≠ ∅)
    (own : proposer.proposerState.myProposalId < 0xFFFFFFFFFFFFFFFF)
    (known : proposer.proposerState.highestKnownProposal < 0xFFFFFFFFFFFFFFFF) :
    proposer.proposerState.myProposalId < (startRound proposer).proposerState.myProposalId ∧
      proposer.proposerState.highestKnownProposal <
        (startRound proposer).proposerState.myProposalId := by
  have someone : proposer.proposalCounter.someoneReject = true := decide_eq_true rejected
  simp only [startRound, someone, if_true, ProposerState.newProposalId, lt_add_one_iff]
  split
  · rename_i lower
    exact ⟨⟨le_rfl, own.ne⟩, lower.le, own.ne⟩
  · rename_i higher
    exact ⟨⟨not_lt.mp higher, known.ne⟩, le_rfl, known.ne⟩

/-- A move that calls `Propose` draws its number on the knowledge of the count. -/
theorem move_proposes (routing : Routing) (node : Node) (next : Move)
    (proposes : Proposes node next) :
    ∃ proposer : PaxProposer,
      (move routing node next).proposer = startRound proposer ∧
      proposer.proposalCounter = (counting node next).proposalCounter ∧
      proposer.proposerState.myProposalId = (counting node next).proposerState.myProposalId ∧
      proposer.proposerState.highestKnownProposal =
        (counting node next).proposerState.highestKnownProposal := by
  cases next with
  | accept => exact proposes.elim
  | input input =>
    cases input with
    | newValue flushed timeout =>
      cases flushed with
      | none => exact absurd proposes Bool.false_ne_true
      | some value =>
        exact ⟨named node value, newValue_proposer node value timeout, rfl,
          named_knowledge node value⟩
    | message ack =>
      obtain ⟨kind, passed, majority⟩ := proposes
      have counts : countAck node ack = countProposeAck node ack := by simp only [countAck, kind]
      rw [counting_passes node ack (.inl ⟨kind, passed⟩), counts]
      refine ⟨countProposeAck node ack, ?_, rfl, rfl, rfl⟩
      simp only [move, step, handleMessage, kind]
      rw [handleProposeAck_majority node ack passed majority, propose_eq]
      rfl
    | proposeTimeout instanceId =>
      refine ⟨node.proposer, ?_, rfl, rfl, rfl⟩
      have current : ¬ instanceId ≠ node.instanceId := not_not.mpr proposes
      rw [move, step, proposeTimeoutCallback, if_neg current, propose_eq]
    | newValueTimeout => exact proposes.elim
    | nextInstance => exact proposes.elim

/-- Counting leaves the own number. -/
theorem counting_number (node : Node) (next : Move) :
    (counting node next).proposerState.myProposalId =
      node.proposer.proposerState.myProposalId := by
  cases next with
  | accept => rfl
  | input input =>
    cases input with
    | message ack =>
      rw [counting]
      split
      · exact countAck_myProposalId node ack
      · rfl
    | _ => rfl

namespace Bidder

/-- What is remembered of the rejections since the last reset. -/
structure Remembers (proposer : PaxProposer) (rejections : List PaxMessage) : Prop where
  /-- A rejection leaves its mark in the counter. -/
  marked : rejections ≠ [] → proposer.proposalCounter.rejections ≠ ∅
  /-- The highest known number covers every number reported. -/
  covered : ∀ rejection ∈ rejections,
    rejection.promisedProposalId ≤ proposer.proposerState.highestKnownProposal
  /-- The highest known number is below the last word. -/
  below : proposer.proposerState.highestKnownProposal < 0xFFFFFFFFFFFFFFFF

/-- Counting remembers the rejections still pending. -/
theorem Remembers.counting {bidder : Bidder}
    (remembers : Remembers bidder.node.proposer bidder.rejections) (next : Move)
    (bounded : Bounded bidder next) :
    Remembers (counting bidder.node next) (bidder.pending next) := by
  obtain ⟨own, reported⟩ := bounded
  by_cases counts : ∃ ack, next = .input (.message ack) ∧ AckPasses bidder.node ack
  · obtain ⟨ack, rfl, passes⟩ := counts
    rw [counting_passes bidder.node ack passes]
    cases rejected : ack.rejected with
    | true =>
      have last : rejectionsOf bidder.node (.input (.message ack)) = [ack] :=
        if_pos ⟨passes, rejected⟩
      have known := countAck_known_rejected bidder.node ack rejected
      rw [last] at reported
      rw [pending, last]
      refine ⟨fun _ => countAck_rejections bidder.node ack passes (.inr rejected), ?_, ?_⟩
      · intro rejection member
        rw [known]
        rcases List.mem_append.mp member with earlier | this
        · exact (remembers.covered rejection earlier).trans (le_max_left _ _)
        · rw [List.mem_singleton.mp this]
          exact le_max_right _ _
      · rw [known]
        exact max_lt remembers.below (reported ack (List.mem_singleton_self ack))
    | false =>
      have none : rejectionsOf bidder.node (.input (.message ack)) = [] :=
        if_neg fun both => by simp [rejected] at both
      obtain ⟨grows, bound⟩ := countAck_known_granted bidder.node ack rejected passes
      rw [pending, none, List.append_nil]
      refine ⟨fun some => ?_, ?_, ?_⟩
      · exact countAck_rejections bidder.node ack passes (.inl (remembers.marked some))
      · exact fun rejection member => (remembers.covered rejection member).trans grows
      · exact lt_of_le_of_lt bound (max_lt remembers.below own)
  · have nothing : PaxProposer.counting bidder.node next = bidder.node.proposer ∧
        rejectionsOf bidder.node next = [] := by
      cases next with
      | accept => exact ⟨rfl, rfl⟩
      | input input =>
        cases input with
        | message ack =>
          have ignored : ¬ AckPasses bidder.node ack := fun passes => counts ⟨ack, rfl, passes⟩
          exact ⟨if_neg ignored, if_neg fun both => ignored both.1⟩
        | _ => exact ⟨rfl, rfl⟩
    rw [nothing.1, pending, nothing.2, List.append_nil]
    exact remembers

/-- Every bounded move keeps what is remembered. -/
theorem Remembers.step (routing : Routing) (bidder : Bidder) (next : Move)
    (remembers : Remembers bidder.node.proposer bidder.rejections)
    (bounded : Bounded bidder next) :
    Remembers (bidder.step routing next).node.proposer (bidder.step routing next).rejections := by
  have counted := remembers.counting next bounded
  have follows := move_follows routing bidder.node next
  have below := lt_of_le_of_lt follows.known counted.below
  rw [Bidder.step]
  dsimp only
  split
  · exact ⟨fun some => absurd rfl some, nofun, below⟩
  · rename_i kept
    obtain ⟨counter, known⟩ := follows.counter.resolve_left kept
    refine ⟨fun some => ?_, fun rejection member => ?_, below⟩
    · rw [counter]
      exact counted.marked some
    · rw [known]
      exact counted.covered rejection member

/-- What a run of bounded moves remembers. -/
theorem remembers_run (routing : Routing) (options : PaxosOptions) (instanceId : InstanceId)
    (acceptor : AcceptorState) (storage : PaxStore) (proposalId : ProposalId)
    (moves : List Move)
    (bounded : Runs.Along (step routing) Bounded
      (start options instanceId acceptor storage proposalId) moves) :
    Remembers
      (Runs.run (step routing) (start options instanceId acceptor storage proposalId)
        moves).node.proposer
      (Runs.run (step routing) (start options instanceId acceptor storage proposalId)
        moves).rejections := by
  have keeps : ∀ bidder next, Remembers bidder.node.proposer bidder.rejections →
      Bounded bidder next →
      Remembers (bidder.step routing next).node.proposer (bidder.step routing next).rejections :=
    fun bidder next remembers bound => remembers.step routing bidder next bound
  have begins : (0 : ProposalId) < 0xFFFFFFFFFFFFFFFF := by decide
  exact bounded.invariant keeps ⟨fun some => absurd rfl some, nofun, begins⟩

end Bidder

/-- **The next round outbids the rejections.** In every run in which the own number and the
numbers reported stay below the last word, a call of `Propose` that finds a rejection since the
last reset uses a number above the previous one that outbids every such rejection. -/
theorem next_round_outbids (routing : Routing) (options : PaxosOptions) (instanceId : InstanceId)
    (acceptor : AcceptorState) (storage : PaxStore) (proposalId : ProposalId)
    (moves : List Move) (next : Move)
    (bounded : Runs.Along (Bidder.step routing) Bidder.Bounded
      (Bidder.start options instanceId acceptor storage proposalId) (moves ++ [next])) :
    let bidder := Runs.run (Bidder.step routing)
      (Bidder.start options instanceId acceptor storage proposalId) moves
    Proposes bidder.node next → bidder.pending next ≠ [] →
      bidder.number < (bidder.step routing next).number ∧
      ∀ rejection ∈ bidder.pending next,
        Outbids bidder.node.getNodeId (bidder.step routing next).number rejection := by
  intro bidder proposes rejected
  obtain ⟨early, last⟩ := (Runs.along_append _ _ _).mp bounded
  have remembers := Bidder.remembers_run routing options instanceId acceptor storage proposalId
    moves early
  have counted := remembers.counting next last.1
  obtain ⟨proposer, after, counter, own, known⟩ := move_proposes routing bidder.node next proposes
  rw [counting_number] at own
  have marked := counted.marked rejected
  have covered := counted.covered
  have below := counted.below
  rw [← counter] at marked
  rw [← known] at below covered
  have previous : proposer.proposerState.myProposalId < 0xFFFFFFFFFFFFFFFF := own ▸ last.1.1
  obtain ⟨above, higher⟩ := startRound_outbids proposer marked previous below
  have number : (bidder.step routing next).number =
      (startRound proposer).proposerState.myProposalId := by
    rw [← after]
    rfl
  rw [number]
  constructor
  · rw [own] at above
    exact above
  · intro rejection member
    exact outbids_of_lt _ _ _ (lt_of_le_of_lt (covered rejection member) higher)

/-- Node seven of three proposes under one and is refused by node eight, which promised node nine
the number four. -/
def outbidMoves : List Move :=
  [.input (.newValue (some [42]) 1000),
    .input (.message { PaxMessage.new 8 .proposeAck with
      proposalId := 1, proposingNodeId := 7, rejected := true, promisedProposalId := 4,
      promisedNodeId := 9 })]

/-- Node seven after its refusal. -/
def outbidder : Bidder :=
  Runs.run (Bidder.step .source) (Bidder.start ⟨7, 1 / 2, 3, 0⟩ 0 {} (fun _ => none) 1) outbidMoves

/-- When its timer fires, node seven goes on under the number five. -/
theorem next_round_outbids_four :
    outbidder.number = 1 ∧ (outbidder.step .source (.input (.proposeTimeout 0))).number = 5 ∧
      ∀ rejection ∈ outbidder.pending (.input (.proposeTimeout 0)),
        Outbids outbidder.node.getNodeId
          (outbidder.step .source (.input (.proposeTimeout 0))).number rejection :=
  ⟨by decide +kernel, by decide +kernel,
    (next_round_outbids .source ⟨7, 1 / 2, 3, 0⟩ 0 {} (fun _ => none) 1 outbidMoves
      (.input (.proposeTimeout 0)) (by decide +kernel) (by decide +kernel)
      (by decide +kernel)).2⟩

end PaxProposer
end Paxosme
