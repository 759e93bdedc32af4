import Paxosme.Verif.Preparing

/-!
# The order of the phases

A run of one proposer is the list of its transitions: new values, acknowledgements, its two
timers and the change of the instance. The order of the phases says when an accept request
may be broadcast and what must happen when a majority of promises is seen. The source does
neither: a majority starts the prepare phase again, so the order holds exactly in the runs
in which no majority is seen.
-/

namespace Paxosme
namespace PaxProposer

/-- What moves a proposer. -/
inductive Input where
  | newValue (flushed : Option LogValue) (timeout : Millisec)
  | message (message : PaxMessage)
  | proposeTimeout (instanceId : InstanceId)
  | newValueTimeout
  | nextInstance

/-- One step of a proposer in a controller with some routing. -/
def step (routing : Routing) (node : Node) : Input → Node
  | .newValue flushed timeout => newValue node flushed timeout
  | .message message => handleMessage (PaxController.processChosenValue routing) node message
  | .proposeTimeout instanceId => proposeTimeoutCallback node instanceId
  | .newValueTimeout => newValueTimeoutCallback node
  | .nextInstance => PaxController.newInstance (PaxController.instanceDone node)

/-- A step with the states around it. -/
structure Transition where
  /-- The state before. -/
  before : Node
  /-- What moved the proposer. -/
  input : Input
  /-- The state after. -/
  after : Node

/-- The transitions of a run, oldest first. -/
def transitions (routing : Routing) (node : Node) : List Input → List Transition
  | [] => []
  | input :: inputs =>
    ⟨node, input, step routing node input⟩ :: transitions routing (step routing node input) inputs

/-- A node whose proposer is as `PaxProposer::Init` leaves it, with any number and beside any
recovered acceptor. -/
def initialized (options : PaxosOptions) (instanceId : InstanceId) (acceptor : AcceptorState)
    (storage : PaxStore) (proposalId : ProposalId) : Node :=
  { Node.fresh options instanceId with
    acceptor, storage, proposer := { proposerState := { myProposalId := proposalId } } }

namespace Transition

/-- The broadcasts of one type that a transition makes. -/
def broadcastsOf (messageType : MessageType) (transition : Transition) : List PaxMessage :=
  (Node.broadcasts (Node.callsSince transition.before transition.after)).filter fun message =>
    message.messageType = messageType

/-- The number of the proposer before the transition. -/
def number (transition : Transition) : ProposalId :=
  transition.before.proposer.proposerState.myProposalId

/-- The counter reports a majority of promises in this transition. -/
def Observes (transition : Transition) : Prop :=
  ∃ ack, transition.input = .message ack ∧ ack.messageType = .proposeAck ∧
    ¬ Discards .kPropose transition.before ack ∧ ObservesMajority transition.before ack

/-- A promise acknowledgement passes the guards, and the promises counted before, with the
node's own id for a grant, are a majority. -/
def CompletesMajority (transition : Transition) : Prop :=
  ∃ ack, transition.input = .message ack ∧ ack.messageType = .proposeAck ∧
    ¬ Discards .kPropose transition.before ack ∧
    transition.before.options.getMajorityCount ≤
      (if ack.rejected then transition.before.proposer.proposalCounter.promises
        else insert transition.before.getNodeId
          transition.before.proposer.proposalCounter.promises).card

/-- The counter reports a majority exactly when the acknowledgement completes it. -/
theorem observes_iff (transition : Transition) :
    transition.Observes ↔ transition.CompletesMajority := by
  simp only [Observes, CompletesMajority, observesMajority_iff]

end Transition

/-- The order of the phases in a run. -/
structure PhaseOrder (run : List Transition) : Prop where
  /-- An accept request is broadcast only after a majority for its number in its instance. -/
  afterMajority : ∀ earlier transition later, run = earlier ++ transition :: later →
    ∀ request ∈ transition.broadcastsOf .acceptBroadcast,
      ∃ observed ∈ earlier ++ [transition], observed.Observes ∧
        observed.number = request.proposalId ∧
        observed.before.instanceId = request.instanceId
  /-- A majority leads to the accept phase with one accept request of its number and the
  current value, and no prepare request of its number follows in its instance. -/
  majorityAccepts : ∀ earlier transition later, run = earlier ++ transition :: later →
    transition.Observes →
      transition.after.proposer.status = .kAccept ∧
      (∃ request, transition.broadcastsOf .acceptBroadcast = [request] ∧
        request.proposalId = transition.number ∧
        request.proposedLogValue = transition.after.proposer.proposerState.logValue) ∧
      ∀ next ∈ transition :: later, ∀ request ∈ next.broadcastsOf .proposeBroadcast,
        ¬ (request.proposalId = transition.number ∧
          request.instanceId = transition.before.instanceId)

/-- No accept phase, and no accept request among the calls. -/
structure NeverAccepts (node : Node) : Prop where
  /-- The proposer is not in the accept phase. -/
  status : node.proposer.status ≠ .kAccept
  /-- No broadcast is an accept request. -/
  calls : ∀ request, .broadcast request ∈ node.calls → request.messageType ≠ .acceptBroadcast

/-- A step that prepares keeps the invariant. -/
theorem Prepares.neverAccepts {before after : Node} (step : Prepares before after)
    (never : NeverAccepts before) : NeverAccepts after := by
  obtain ⟨later, appended, ok⟩ := step.calls
  refine ⟨step.status, fun request member => ?_⟩
  rw [appended] at member
  rcases List.mem_append.mp member with member | member
  · exact never.calls request member
  · have prepare := ok _ member
    rw [prepare.1]
    decide

/-- Every step keeps the invariant. -/
theorem neverAccepts_step (routing : Routing) (node : Node) (input : Input)
    (never : NeverAccepts node) : NeverAccepts (step routing node input) := by
  cases input with
  | newValue flushed timeout =>
    exact (newValue_prepares node flushed timeout never.status).neverAccepts never
  | message message =>
    exact (handleMessage_prepares _ node message never.status).neverAccepts never
  | proposeTimeout instanceId =>
    exact (proposeTimeoutCallback_prepares node instanceId never.status).neverAccepts never
  | newValueTimeout => exact (newValueTimeoutCallback_prepares node never.status).neverAccepts never
  | nextInstance =>
    have appended : (step routing node .nextInstance).calls = node.calls ++
        [.writeResult node.learner.learnerState.logValue node.instanceId .valueAccepted,
          .removeEvent .proposeTimeout, .removeEvent .acceptTimeout] := by
      simp [step, PaxController.newInstance, PaxController.instanceDone, instanceDone,
        newInstance, PaxAcceptor.newInstance, PaxLearner.newInstance, PaxLearner.withLearner,
        withProposer, Node.withdraw, Node.record]
    have cleared : (step routing node .nextInstance).proposer.status = .kNone := rfl
    refine ⟨by rw [cleared]; decide, fun request member => ?_⟩
    rw [appended] at member
    rcases List.mem_append.mp member with member | member
    · exact never.calls request member
    · simp at member

/-- The invariant holds around every transition of a run. -/
theorem neverAccepts_transitions (routing : Routing) (node : Node) (inputs : List Input)
    (never : NeverAccepts node) :
    ∀ transition ∈ transitions routing node inputs, NeverAccepts transition.after := by
  induction inputs generalizing node with
  | nil => simp [transitions]
  | cons input inputs ih =>
    have kept := neverAccepts_step routing node input never
    intro transition member
    rcases List.mem_cons.mp member with rfl | member
    · exact kept
    · exact ih _ kept transition member

/-- Around a transition that never accepts, no accept request is broadcast. -/
theorem NeverAccepts.no_requests {transition : Transition}
    (never : NeverAccepts transition.after) : transition.broadcastsOf .acceptBroadcast = [] := by
  refine List.filter_eq_nil_iff.mpr fun request member => ?_
  have called := List.mem_of_mem_drop (Node.mem_broadcasts.mp member)
  simpa using never.calls request called

/-- A proposer as it is initialized has accepted nothing and called nothing. -/
theorem neverAccepts_initialized (options : PaxosOptions) (instanceId : InstanceId)
    (acceptor : AcceptorState) (storage : PaxStore) (proposalId : ProposalId) :
    NeverAccepts (initialized options instanceId acceptor storage proposalId) :=
  ⟨nofun, fun _ member => absurd member List.not_mem_nil⟩

/-- A run keeps the order of the phases exactly where no acknowledgement completes a
majority of promises. -/
theorem phaseOrder_iff (routing : Routing) (options : PaxosOptions) (instanceId : InstanceId)
    (acceptor : AcceptorState) (storage : PaxStore) (proposalId : ProposalId)
    (inputs : List Input) :
    PhaseOrder (transitions routing
        (initialized options instanceId acceptor storage proposalId) inputs) ↔
      ∀ transition ∈ transitions routing
          (initialized options instanceId acceptor storage proposalId) inputs,
        ¬ transition.CompletesMajority := by
  have never := neverAccepts_transitions routing _ inputs
    (neverAccepts_initialized options instanceId acceptor storage proposalId)
  constructor
  · intro order transition member completes
    obtain ⟨earlier, later, split⟩ := List.append_of_mem member
    have observed := transition.observes_iff.mpr completes
    obtain ⟨accepts, _⟩ := order.majorityAccepts earlier transition later split observed
    exact (never transition member).status accepts
  · intro none
    constructor
    · intro earlier transition later split request member
      have here : transition ∈ transitions routing _ inputs :=
        split ▸ List.mem_append_right _ List.mem_cons_self
      rw [(never transition here).no_requests] at member
      exact absurd member List.not_mem_nil
    · intro earlier transition later split observed
      have here : transition ∈ transitions routing _ inputs :=
        split ▸ List.mem_append_right _ List.mem_cons_self
      exact absurd (transition.observes_iff.mp observed) (none transition here)

/-- A node alone proposes and its own promise, under its number, is a majority. -/
def lonelyRun : List Transition :=
  transitions .source (initialized ⟨7, 1 / 2, 1, 0⟩ 0 {} (fun _ => none) 1)
    [.newValue (some [42]) 1000,
      .message { PaxMessage.new 7 .proposeAck with proposalId := 1, proposingNodeId := 7 }]

/-- The majority of one does not lead to the accept phase. -/
theorem phaseOrder_lonely : ¬ PhaseOrder lonelyRun := by
  intro order
  have observed := order.majorityAccepts [lonelyRun[0]] lonelyRun[1] [] rfl
    ⟨_, rfl, by decide +kernel, by decide +kernel, by decide +kernel⟩
  have accepts := observed.1
  revert accepts
  decide +kernel

end PaxProposer
end Paxosme
