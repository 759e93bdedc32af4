import Paxosme.Lib.Runs
import Paxosme.Core.Cluster
import Paxosme.Core.Recovery
import Paxosme.Verif.Preparing

/-!
# The numbers of a node's rounds

A node numbers its prepare requests with a counter that lives in memory. Within one process the
counter never falls below a number already used, up to the wrap-around of its addition. After a
crash the counter is set to the number after the accepted proposal of the recovered acceptor; a
prepare request leaves no trace there, so its number can come again.

The number of a request is the one that `GenerateMessage` is given, which that function writes
into the proposing node of the message.
-/

namespace Paxosme
namespace NumberReuse

open PaxProposer

/-- What can happen to a node: a message arrives under some routing, it acts of its own accord,
or its process crashes and starts again. A crash inside a handler leaves the log and the
requests broadcast as they are before the handler or after it. -/
inductive Event where
  | receive (routing : Routing) (message : PaxMessage)
  | act (activity : Cluster.Activity)
  | restart (instanceInSM memory : InstanceId)

/-- The state after an event. -/
def step (node : Node) : Event → Node
  | .receive routing message =>
    Cluster.onMainThread (PaxController.handleMessage routing · message) node
  | .act activity => activity.run node
  | .restart instanceInSM memory => PaxController.restart node instanceInSM memory

/-- A process started for the first time, on any log. -/
def launched (options : PaxosOptions) (storage : PaxStore) (instanceInSM memory : InstanceId) :
    Node :=
  PaxController.init { Node.fresh options memory with storage } instanceInSM

/-- The number of a request. -/
def requestNumber (message : PaxMessage) : ProposalId := message.proposingNodeId

/-- The requests broadcast among some calls. -/
def requests (calls : List Call) : List PaxMessage :=
  (Node.broadcasts calls).filter fun message => PaxAcceptor.IsRequest message

/-- The numbers of the requests broadcast among some calls. -/
def numbersUsed (calls : List Call) : List ProposalId := (requests calls).map requestNumber

/-- The numbers of those of one instance. -/
def numbersOf (instanceId : InstanceId) (calls : List Call) : List ProposalId :=
  ((requests calls).filter fun message => message.instanceId = instanceId).map requestNumber

/-- The proposer on which an event calls `Propose`, if it does. -/
def proposal (node : Node) : Event → Option PaxProposer
  | .act (.newValue (some value) _) =>
    if node.blocked then none
    else
      let state := node.proposer.proposerState
      some { node.proposer with
        proposerState := if state.logValue.isEmpty then state.setLogValue value else state }
  | .act (.timer (.proposeTimeoutCallback instanceId)) =>
    if node.blocked ∨ instanceId ≠ node.instanceId then none else some node.proposer
  | .receive routing message =>
    if node.blocked = false ∧ routing.messagePlaceHolder message.messageType = false ∧
        routing.messageForLearner message.messageType = false ∧
        routing.messageForProposer message.messageType = true ∧
        message.messageType = .proposeAck ∧ ¬ Discards .kPropose node message ∧
        ObservesMajority node message then
      some (countProposeAck node message)
    else none
  | _ => none

/-- The numbers that an event draws with `NewProposalId` or installs with `PaxProposer::Init`. -/
def produced (node : Node) : Event → List ProposalId
  | .restart instanceInSM memory =>
    [(PaxController.restart node instanceInSM memory).proposer.proposerState.myProposalId]
  | event =>
    match proposal node event with
    | some proposer =>
      if proposer.proposalCounter.someoneReject then
        [proposer.proposerState.newProposalId.myProposalId]
      else []
    | none => []

/-- Every number that an event produces is above every number used in an instance before. -/
def ProducesAbove (instanceId : InstanceId) (node : Node) (event : Event) : Prop :=
  ∀ number ∈ produced node event, ∀ used ∈ numbersOf instanceId node.calls, used < number

/-- Every number that a run produces is above the numbers used before, in every instance. -/
def NeverReused (start : Node) (events : List Event) : Prop :=
  ∀ earlier event later, events = earlier ++ event :: later →
    ∀ instanceId, ProducesAbove instanceId (Runs.run step start earlier) event

/-- The instance in which an event produces a number: for a restart, the one that is resumed. -/
def producingInstance (node : Node) : Event → InstanceId
  | .restart instanceInSM memory => (PaxController.restart node instanceInSM memory).instanceId
  | _ => node.instanceId

/-- Every number that a run produces is above the numbers used before in the same instance. -/
def NeverReusedWithin (start : Node) (events : List Event) : Prop :=
  ∀ earlier event later, events = earlier ++ event :: later →
    ProducesAbove (producingInstance (Runs.run step start earlier) event)
      (Runs.run step start earlier) event

/-- The largest number. -/
def largest : ProposalId := 0xFFFFFFFFFFFFFFFF

/-- A number is drawn while neither the own number nor the highest known one is the largest,
and a process restarts only when the accepted number that it recovers is at least every number
used, and not the largest once one has been used. -/
def Affordable (node : Node) : Event → Prop
  | .restart _ _ => ∀ used ∈ numbersUsed node.calls,
    used ≤ (PaxController.recovered node.storage).acceptedProposalId ∧
      (PaxController.recovered node.storage).acceptedProposalId ≠ largest
  | event => ∀ proposer, proposal node event = some proposer →
    proposer.proposalCounter.someoneReject = true →
      proposer.proposerState.myProposalId ≠ largest ∧
        proposer.proposerState.highestKnownProposal ≠ largest

/-- The same as far as one instance goes: a restart looks at the instance that it resumes and at
later ones, and no event takes the node to an earlier one, as the wrap-around does. -/
def AffordableWithin (node : Node) : Event → Prop
  | .restart instanceInSM memory => ∀ instanceId,
    (PaxController.restart node instanceInSM memory).instanceId ≤ instanceId →
      ∀ used ∈ numbersOf instanceId node.calls,
        used ≤ (PaxController.recovered node.storage).acceptedProposalId ∧
          (PaxController.recovered node.storage).acceptedProposalId ≠ largest
  | event => Affordable node event ∧ node.instanceId ≤ (step node event).instanceId

/-- The proposer takes part in a round, or has counted a rejection. -/
def Engaged (proposer : PaxProposer) : Prop :=
  proposer.status = .kPropose ∨ proposer.proposalCounter.someoneReject = true

/-- A proposer between two rounds that has counted nothing is not engaged. -/
theorem not_engaged_cleared (proposerState : ProposerState) :
    ¬ Engaged { status := .kNone, proposalCounter := {}, proposerState } := by
  rintro (phase | rejected)
  · exact absurd phase (by simp)
  · exact absurd rejected (by simp [ProposalCounter.someoneReject])

/-- The call broadcasts no request. -/
def NoRequest (call : Call) : Prop :=
  ∀ message, call = .broadcast message → ¬ PaxAcceptor.IsRequest message

/-- A step that uses no number: the counter stays, no round starts, and no request is
broadcast. -/
structure Quiet (before after : Node) : Prop where
  /-- The own number stays. -/
  number : after.proposer.proposerState.myProposalId = before.proposer.proposerState.myProposalId
  /-- No round starts. -/
  engaged : Engaged after.proposer → Engaged before.proposer
  /-- The accept phase is not entered. -/
  phase : before.proposer.status ≠ .kAccept → after.proposer.status ≠ .kAccept
  /-- No request is broadcast. -/
  adds : Node.Adds NoRequest before after

/-- Doing nothing is quiet. -/
theorem quiet_refl (node : Node) : Quiet node node :=
  ⟨rfl, id, id, Node.adds_of_eq rfl⟩

/-- Two quiet steps make one. -/
theorem Quiet.trans {first second third : Node} (before : Quiet first second)
    (after : Quiet second third) : Quiet first third :=
  ⟨after.number.trans before.number, before.engaged ∘ after.engaged, after.phase ∘ before.phase,
    before.adds.trans after.adds⟩

/-- A step that leaves the proposer and broadcasts no request is quiet. -/
theorem quiet_of_proposer {before after : Node} (same : after.proposer = before.proposer)
    (adds : Node.Adds NoRequest before after) : Quiet before after := by
  refine ⟨?_, ?_, ?_, adds⟩
  · rw [same]
  · rw [same]
    exact id
  · rw [same]
    exact id

/-- A learner's call broadcasts no request. -/
theorem noRequest_learner (call : Call) (learners : PaxLearner.LearnerCall call) :
    NoRequest call := by
  rintro message rfl request
  have kind : message.messageType = .valueChosenBroadcast := learners
  rcases request with propose | accept
  · rw [kind] at propose
    exact absurd propose (by decide)
  · rw [kind] at accept
    exact absurd accept (by decide)

/-- The learner's handler is quiet. -/
theorem quiet_learner (node : Node) (message : PaxMessage) :
    Quiet node (PaxLearner.handleMessage node message) := by
  have same := PaxLearner.besides_handleMessage node message
  simp only [PaxLearner.besides, Prod.mk.injEq] at same
  exact quiet_of_proposer same.2.2.1
    ((PaxLearner.handleMessage_adds node message).mono noRequest_learner)

/-- The acceptor's handler is quiet. -/
theorem quiet_acceptor (node : Node) (message : PaxMessage) :
    Quiet node (PaxAcceptor.handleMessage node message) := by
  have same := congrArg Node.proposer (PaxAcceptor.handleMessage_frame node message)
  refine quiet_of_proposer same ((PaxAcceptor.handleMessage_adds node message).mono ?_)
  rintro call fine message rfl
  exact absurd fine id

/-- The end of the controller's handler is quiet. -/
theorem quiet_finish (node : Node) : Quiet node (PaxController.finish node) := by
  have adds : Node.Adds NoRequest node (PaxController.finish node) := by
    refine (PaxController.finish_adds node).mono ?_
    rintro call member message rfl
    simp [PaxController.finalCalls] at member
  cases blocked : node.blocked with
  | true =>
    rw [PaxController.finish_blocked node blocked]
    exact quiet_refl node
  | false =>
    cases learned : node.learner.learnerState.learned with
    | true =>
      refine ⟨?_, ?_, ?_, adds⟩
      · rw [PaxController.finish_learned node blocked learned]
        rfl
      · rw [PaxController.finish_learned node blocked learned]
        exact fun engaged => absurd engaged (not_engaged_cleared _)
      · rw [PaxController.finish_learned node blocked learned]
        exact fun _ => by simp
    | false =>
      rw [PaxController.finish_unlearned node learned]
      exact quiet_refl node

/-- What `PrepareCall` allows beside a broadcast is no request. -/
theorem noRequest_relaunch (counter : ProposalCounter) (options : PaxosOptions)
    (eventType : EventType) (delay : Millisec) (message : PaxMessage) :
    ∀ call ∈ relaunch counter options eventType delay message, NoRequest call := by
  intro call member other same
  unfold relaunch at member
  split at member
  · rw [List.mem_singleton.mp member] at same
    exact absurd same (by simp)
  · exact absurd member List.not_mem_nil

/-- Counting a promise acknowledgement keeps the own number. -/
theorem quiet_counted (node : Node) (message : PaxMessage)
    (passes : ¬ Discards .kPropose node message) :
    Quiet node (withProposer node (countProposeAck node message)) := by
  refine ⟨countProposeAck_myProposalId node message, fun _ => ?_, fun phase => ?_,
    Node.adds_of_eq rfl⟩
  · exact .inl ((not_discards_iff _ _ _).mp passes).1
  · exact countProposeAck_status node message ▸ phase

/-- Handling a promise acknowledgement that does not show a majority is quiet. -/
theorem quiet_handleProposeAck (node : Node) (message : PaxMessage)
    (short : Discards .kPropose node message ∨ ¬ ObservesMajority node message) :
    Quiet node (handleProposeAck node message) := by
  by_cases discarded : Discards .kPropose node message
  · rw [handleProposeAck_discarded node message discarded]
    exact quiet_refl node
  · have silent := short.resolve_left discarded
    rw [handleProposeAck_counted node message discarded silent]
    have counted := quiet_counted node message discarded
    exact ⟨counted.number, counted.engaged, counted.phase, _, rfl, noRequest_relaunch _ _ _ _ _⟩

/-- Handling a proposer's message outside the accept phase is quiet, or it shows a majority of
promises. -/
theorem quiet_proposer (process : Node → PaxMessage → Node) (node : Node) (message : PaxMessage)
    (phase : node.proposer.status ≠ .kAccept)
    (short : message.messageType = .proposeAck →
      Discards .kPropose node message ∨ ¬ ObservesMajority node message) :
    Quiet node (PaxProposer.handleMessage process node message) := by
  unfold PaxProposer.handleMessage
  split
  · rename_i kind
    exact quiet_handleProposeAck node message (short kind)
  · rw [handleAcceptAck_discarded process node message (.inl phase)]
    exact quiet_refl node
  · exact quiet_refl node

/-- The timer of a value is quiet. -/
theorem quiet_newValueTimeoutCallback (node : Node) :
    Quiet node (newValueTimeoutCallback node) := by
  unfold newValueTimeoutCallback
  split
  · exact quiet_refl node
  · refine ⟨rfl, ?_, fun _ => by simp [withProposer, Node.record],
      [.removeEvent .proposeTimeout, .removeEvent .acceptTimeout,
        .writeResult [] node.instanceId .valueTimeout], ?_, by simp [NoRequest]⟩
    · rintro (phase | rejected)
      · exact absurd phase (by simp [withProposer, Node.record])
      · exact .inr rejected
    · simp [Node.withdraw, Node.record, withProposer]

/-- Asking the others is quiet. -/
theorem quiet_shallLearn (node : Node) (free : node.blocked = false) :
    Quiet node (PaxLearner.shallLearn node) := by
  cases held : node.learner.mutexFollow with
  | true =>
    rw [PaxLearner.shallLearn_held node held]
    exact quiet_of_proposer rfl ⟨_, rfl, by simp [NoRequest]⟩
  | false =>
    rw [PaxLearner.shallLearn_free node free held]
    refine quiet_of_proposer rfl ⟨_, rfl, ?_⟩
    simp [NoRequest, PaxAcceptor.IsRequest, PaxLearner.shallILearnMessage, PaxMessage.new]

/-- A step of the sending thread is quiet. -/
theorem quiet_sendingStep (node : Node) (tooSlow : Bool) :
    Quiet node (PaxLearner.sendingStep node tooSlow) := by
  have same := PaxLearner.besides_sendingStep node tooSlow
  simp only [PaxLearner.besides, Prod.mk.injEq] at same
  refine quiet_of_proposer same.2.2.1 ?_
  rcases PaxLearner.sendingStep_calls node tooSlow with
    silent | ⟨_, receiver, message, _, _, _, _, sends, _⟩
  · exact Node.adds_of_eq silent
  · exact ⟨_, sends, by simp [NoRequest]⟩

/-- The requests among calls made one after the other. -/
theorem requests_append (first second : List Call) :
    requests (first ++ second) = requests first ++ requests second := by
  rw [requests, Node.broadcasts_append, List.filter_append]
  rfl

/-- `Propose` broadcasts the request of the round that it starts. -/
theorem requests_propose (node : Node) :
    requests (propose node).calls = requests node.calls ++ [prepareMessage node] := by
  rw [propose_eq, requests_append]
  rfl

/-- It uses the number of that round. -/
theorem numbersUsed_propose (node : Node) :
    numbersUsed (propose node).calls =
      numbersUsed node.calls ++ [(startRound node.proposer).proposerState.myProposalId] := by
  rw [numbersUsed, requests_propose, List.map_append]
  rfl

/-- A number is used when it is used in an instance. -/
theorem mem_numbersUsed (used : ProposalId) (calls : List Call) :
    used ∈ numbersUsed calls ↔ ∃ instanceId, used ∈ numbersOf instanceId calls := by
  simp only [numbersUsed, numbersOf, List.mem_map, List.mem_filter, decide_eq_true_eq]
  constructor
  · rintro ⟨message, member, same⟩
    exact ⟨message.instanceId, message, ⟨member, rfl⟩, same⟩
  · rintro ⟨_, message, ⟨member, _⟩, same⟩
    exact ⟨message, member, same⟩

/-- Calls that broadcast no request leave the requests. -/
theorem requests_of_adds {before after : Node} (adds : Node.Adds NoRequest before after) :
    requests after.calls = requests before.calls := by
  obtain ⟨later, appended, fine⟩ := adds
  have none : requests later = [] := by
    refine List.filter_eq_nil_iff.mpr fun message member => ?_
    simpa using fine _ (Node.mem_broadcasts.mp member) message rfl
  rw [appended, requests_append, none, List.append_nil]

/-- A quiet step broadcasts no request. -/
theorem Quiet.requests {before after : Node} (quiet : Quiet before after) :
    requests after.calls = requests before.calls :=
  requests_of_adds quiet.adds

/-- A quiet step uses no number. -/
theorem Quiet.numbersUsed {before after : Node} (quiet : Quiet before after) :
    numbersUsed after.calls = numbersUsed before.calls := by
  rw [NumberReuse.numbersUsed, quiet.requests]
  rfl

/-- The state in which `NewValue` calls `Propose`. -/
theorem quiet_newValue (node : Node) (value : LogValue) (timeout : Millisec) :
    ∃ before, Quiet node before ∧
      before.proposer = { node.proposer with
        proposerState := if node.proposer.proposerState.logValue.isEmpty then
            node.proposer.proposerState.setLogValue value
          else node.proposer.proposerState } ∧
      newValue node (some value) timeout = propose before := by
  let state := if node.proposer.proposerState.logValue.isEmpty then
      node.proposer.proposerState.setLogValue value
    else node.proposer.proposerState
  have number : state.myProposalId = node.proposer.proposerState.myProposalId := by
    simp only [state]
    split
    · rfl
    · rfl
  let before := (withProposer (node.record (.flush node.instanceId value))
    { node.proposer with proposerState := state }).publish .newValueTimeout
      .newValueTimeoutCallback timeout
  exact ⟨before, ⟨number, id, id, [.flush node.instanceId value,
    .addEvent .newValueTimeout .newValueTimeoutCallback timeout],
    by simp [before, Node.publish, Node.record, withProposer], by simp [NoRequest]⟩, rfl, rfl⟩

/-- What an event does that calls `Propose` on a proposer, or does not call it: it is quiet, or
it calls `Propose` once, between quiet steps. -/
def Follows (node : Node) (proposal : Option PaxProposer) (after : Node) : Prop :=
  match proposal with
  | none => Quiet node after
  | some proposer => ∃ before, Quiet node before ∧ before.proposer = proposer ∧
      Quiet (propose before) after

/-- What a node does of its own accord, as far as the numbers go. -/
theorem act_follows (node : Node) (activity : Cluster.Activity) :
    Follows node (proposal node (.act activity)) (step node (.act activity)) := by
  cases activity with
  | sending tooSlow => exact quiet_sendingStep node tooSlow
  | newValue flushed timeout =>
    cases blocked : node.blocked with
    | true =>
      have stays : step node (.act (.newValue flushed timeout)) = node :=
        Cluster.onMainThread_blocked (newValue · flushed timeout) node blocked
      rw [stays]
      cases flushed with
      | none => exact quiet_refl node
      | some value =>
        simp only [proposal, blocked, if_true]
        exact quiet_refl node
    | false =>
      have moves : step node (.act (.newValue flushed timeout)) = newValue node flushed timeout :=
        Cluster.onMainThread_free (newValue · flushed timeout) node blocked
      rw [moves]
      cases flushed with
      | none => exact quiet_refl node
      | some value =>
        obtain ⟨before, quiet, same, calls⟩ := quiet_newValue node value timeout
        simp only [proposal, blocked, Bool.false_eq_true, if_false]
        exact ⟨before, quiet, same, calls ▸ quiet_refl _⟩
  | timer callback =>
    cases blocked : node.blocked with
    | true =>
      have stays : step node (.act (.timer callback)) = node :=
        Cluster.onMainThread_blocked _ node blocked
      rw [stays]
      cases callback with
      | proposeTimeoutCallback instanceId =>
        simp only [proposal, blocked, true_or, if_true]
        exact quiet_refl node
      | newValueTimeoutCallback => exact quiet_refl node
      | shallLearn => exact quiet_refl node
    | false =>
      have moves : step node (.act (.timer callback)) = callback.fire node :=
        Cluster.onMainThread_free _ node blocked
      rw [moves]
      cases callback with
      | proposeTimeoutCallback instanceId =>
        by_cases left : instanceId ≠ node.instanceId
        · have none : proposal node (.act (.timer (.proposeTimeoutCallback instanceId))) =
            Option.none := if_pos (.inr left)
          have same : TimerCallback.fire (.proposeTimeoutCallback instanceId) node = node :=
            if_pos left
          rw [none, same]
          exact quiet_refl node
        · have some : proposal node (.act (.timer (.proposeTimeoutCallback instanceId))) =
            Option.some node.proposer := if_neg (by simp [blocked, left])
          have same : TimerCallback.fire (.proposeTimeoutCallback instanceId) node =
            propose node := if_neg left
          rw [some, same]
          exact ⟨node, quiet_refl node, rfl, quiet_refl _⟩
      | newValueTimeoutCallback => exact quiet_newValueTimeoutCallback node
      | shallLearn => exact quiet_shallLearn node blocked

/-- What a message does to the numbers, outside the accept phase. -/
theorem receive_follows (node : Node) (routing : Routing) (message : PaxMessage)
    (phase : node.proposer.status ≠ .kAccept) :
    Follows node (proposal node (.receive routing message))
      (step node (.receive routing message)) := by
  cases blocked : node.blocked with
  | true =>
    have stays : step node (.receive routing message) = node :=
      Cluster.onMainThread_blocked (PaxController.handleMessage routing · message) node blocked
    rw [stays]
    simp only [proposal, blocked, Bool.true_eq_false, false_and, if_false]
    exact quiet_refl node
  | false =>
    have moves : step node (.receive routing message) =
        PaxController.handleMessage routing node message :=
      Cluster.onMainThread_free (PaxController.handleMessage routing · message) node blocked
    rw [moves, PaxController.handleMessage, PaxController.handleMessageBody]
    simp only [proposal, blocked, true_and]
    cases placeHolder : routing.messagePlaceHolder message.messageType with
    | true =>
      simp only [Bool.true_eq_false, false_and, if_false, if_true]
      exact quiet_refl node
    | false =>
      simp only [true_and, Bool.false_eq_true, if_false, PaxController.dispatch]
      cases forLearner : routing.messageForLearner message.messageType with
      | true =>
        simp only [Bool.true_eq_false, false_and, if_false, if_true]
        exact (quiet_learner node message).trans (quiet_finish _)
      | false =>
        simp only [true_and, Bool.false_eq_true, if_false]
        cases forProposer : routing.messageForProposer message.messageType with
        | true =>
          simp only [true_and, if_true]
          by_cases shows : message.messageType = .proposeAck ∧ ¬ Discards .kPropose node message ∧
              ObservesMajority node message
          · obtain ⟨kind, passes, majority⟩ := shows
            simp only [kind, passes, majority, not_false_eq_true, and_self, if_true,
              PaxProposer.handleMessage]
            rw [handleProposeAck_majority node message passes majority]
            exact ⟨_, quiet_counted node message passes, rfl, quiet_finish _⟩
          · simp only [shows, if_false]
            refine (quiet_proposer _ node message phase fun kind => ?_).trans (quiet_finish _)
            by_contra both
            obtain ⟨passes, majority⟩ := not_or.mp both
            exact shows ⟨kind, passes, not_not.mp majority⟩
        | false =>
          simp only [Bool.false_eq_true, false_and, if_false]
          split
          · exact (quiet_acceptor node message).trans (quiet_finish _)
          · exact quiet_finish node

/-- A new number is above the own number exactly when neither the own number nor the highest
known one is the largest; otherwise it is zero. -/
theorem newProposalId_cases (state : ProposerState) :
    (state.myProposalId ≠ largest ∧ state.highestKnownProposal ≠ largest) ∧
        state.myProposalId < state.newProposalId.myProposalId ∨
      ¬ (state.myProposalId ≠ largest ∧ state.highestKnownProposal ≠ largest) ∧
        state.newProposalId.myProposalId = 0 := by
  have top (word : ProposalId) : word ≤ largest := by
    rw [UInt64.le_iff_toNat_le]
    exact Nat.le_of_lt_succ word.toNat_lt
  simp only [ProposerState.newProposalId]
  split
  · rename_i lower
    have known : state.highestKnownProposal ≠ largest := fun same =>
      not_lt.mpr (top state.myProposalId) (same ▸ lower)
    by_cases own : state.myProposalId = largest
    · refine .inr ⟨fun both => both.1 own, ?_⟩
      rw [own]
      rfl
    · exact .inl ⟨⟨own, known⟩, (WordOrder.lt_add_one_iff _ _).mpr ⟨le_rfl, own⟩⟩
  · rename_i higher
    have below : state.myProposalId ≤ state.highestKnownProposal := not_lt.mp higher
    by_cases known : state.highestKnownProposal = largest
    · refine .inr ⟨fun both => both.2 known, ?_⟩
      rw [known]
      rfl
    · have own : state.myProposalId ≠ largest := fun same =>
        known (le_antisymm (top _) (same ▸ below))
      exact .inl ⟨⟨own, known⟩, (WordOrder.lt_add_one_iff _ _).mpr ⟨below, known⟩⟩

/-- The counter of a node covers the numbers that it has used. -/
structure Covers (node : Node) : Prop where
  /-- No number used is above the own number. -/
  bounded : ∀ used ∈ numbersUsed node.calls, used ≤ node.proposer.proposerState.myProposalId
  /-- A node that takes part in a round has used a number. -/
  engaged : Engaged node.proposer → numbersUsed node.calls ≠ []
  /-- The accept phase has not been entered. -/
  phase : node.proposer.status ≠ .kAccept

/-- A quiet step keeps the numbers covered. -/
theorem Covers.quiet {before after : Node} (covers : Covers before) (quiet : Quiet before after) :
    Covers after := by
  refine ⟨?_, ?_, quiet.phase covers.phase⟩
  · rw [quiet.numbersUsed, quiet.number]
    exact covers.bounded
  · rw [quiet.numbersUsed]
    exact covers.engaged ∘ quiet.engaged

/-- `Propose` draws a number that is not below the own one, where the numbers do not wrap. -/
theorem startRound_rises (proposer : PaxProposer)
    (fits : proposer.proposalCounter.someoneReject = true →
      proposer.proposerState.myProposalId ≠ largest ∧
        proposer.proposerState.highestKnownProposal ≠ largest) :
    proposer.proposerState.myProposalId ≤ (startRound proposer).proposerState.myProposalId := by
  simp only [startRound]
  split
  · rename_i rejected
    rcases newProposalId_cases proposer.proposerState with ⟨_, above⟩ | ⟨wraps, _⟩
    · exact above.le
    · exact absurd (fits rejected) wraps
  · exact le_rfl

/-- `Propose` keeps the numbers covered where a new number does not wrap round. -/
theorem Covers.propose {node : Node} (covers : Covers node)
    (fits : node.proposer.proposalCounter.someoneReject = true →
      node.proposer.proposerState.myProposalId ≠ largest ∧
        node.proposer.proposerState.highestKnownProposal ≠ largest) :
    Covers (propose node) := by
  have rises := startRound_rises node.proposer fits
  refine ⟨?_, fun _ => ?_, ?_⟩
  · rw [numbersUsed_propose, propose_eq]
    intro used member
    rcases List.mem_append.mp member with old | new
    · exact (covers.bounded used old).trans rises
    · exact (List.mem_singleton.mp new).le
  · rw [numbersUsed_propose]
    simp
  · rw [propose_eq]
    exact fun phase => absurd phase (by simp [startRound])

/-- A restart broadcasts no request. -/
theorem requests_restart (node : Node) (instanceInSM memory : InstanceId) :
    requests (PaxController.restart node instanceInSM memory).calls = requests node.calls := by
  obtain ⟨instanceId, executed, same, executes⟩ :=
    PaxController.restart_eq node instanceInSM memory
  refine requests_of_adds ⟨executed ++ [.addEvent .shallILearn .shallLearn
    PaxLearner.shallLearnDelay], by rw [same, List.append_assoc], fun call member => ?_⟩
  rintro message rfl
  rcases List.mem_append.mp member with ran | timer
  · obtain ⟨_, _, wrong⟩ := executes _ ran
    exact absurd wrong (by simp)
  · exact absurd (List.mem_singleton.mp timer) (by simp)

/-- A restart uses no number. -/
theorem numbersUsed_restart (node : Node) (instanceInSM memory : InstanceId) :
    numbersUsed (PaxController.restart node instanceInSM memory).calls =
      numbersUsed node.calls := by
  rw [numbersUsed, requests_restart]
  rfl

/-- The number that a restart installs. -/
theorem restart_number (node : Node) (instanceInSM memory : InstanceId) :
    (PaxController.restart node instanceInSM memory).proposer.proposerState.myProposalId =
      (PaxController.recovered node.storage).acceptedProposalId + 1 := by
  obtain ⟨_, _, same, _⟩ := PaxController.restart_eq node instanceInSM memory
  rw [same]

/-- A process that starts is not engaged, and covers what it may use. -/
theorem covers_restart (node : Node) (instanceInSM memory : InstanceId)
    (above : ∀ used ∈ numbersUsed node.calls,
      used < (PaxController.recovered node.storage).acceptedProposalId + 1) :
    Covers (PaxController.restart node instanceInSM memory) := by
  refine ⟨?_, ?_, ?_⟩
  · rw [numbersUsed_restart, restart_number]
    exact fun used member => (above used member).le
  · obtain ⟨_, _, same, _⟩ := PaxController.restart_eq node instanceInSM memory
    rw [same]
    exact fun engaged => absurd engaged (not_engaged_cleared _)
  · obtain ⟨_, _, same, _⟩ := PaxController.restart_eq node instanceInSM memory
    rw [same]
    exact fun phase => absurd phase (by simp)

/-- What is common to all events but a restart. -/
structure Ordinary (event : Event) : Prop where
  /-- At most the number of one proposal is drawn. -/
  draws : ∀ node, produced node event =
    match proposal node event with
    | some proposer =>
      if proposer.proposalCounter.someoneReject then
        [proposer.proposerState.newProposalId.myProposalId]
      else []
    | none => []
  /-- It can be afforded when it does not wrap. -/
  affords : ∀ node, Affordable node event ↔ ∀ proposer, proposal node event = some proposer →
    proposer.proposalCounter.someoneReject = true →
      proposer.proposerState.myProposalId ≠ largest ∧
        proposer.proposerState.highestKnownProposal ≠ largest
  /-- Within an instance the instance must not fall. -/
  within : ∀ node, AffordableWithin node event →
    Affordable node event ∧ node.instanceId ≤ (step node event).instanceId
  /-- The number is drawn in the node's instance. -/
  producing : ∀ node, producingInstance node event = node.instanceId
  /-- Outside the accept phase numbers are used in the one proposal only. -/
  follows : ∀ node, node.proposer.status ≠ .kAccept →
    Follows node (proposal node event) (step node event)

/-- A restart is an event apart. -/
theorem event_cases (event : Event) :
    (∃ instanceInSM memory, event = .restart instanceInSM memory) ∨ Ordinary event := by
  cases event with
  | restart instanceInSM memory => exact .inl ⟨_, _, rfl⟩
  | act activity =>
    exact .inr ⟨fun _ => rfl, fun _ => Iff.rfl, fun _ => id, fun _ => rfl,
      fun node _ => act_follows node activity⟩
  | receive routing message =>
    exact .inr ⟨fun _ => rfl, fun _ => Iff.rfl, fun _ => id, fun _ => rfl,
      fun node => receive_follows node routing message⟩

/-- While the numbers are covered, an event produces numbers above those used exactly when it can
afford to. -/
theorem producesAbove_iff {node : Node} (covers : Covers node) (event : Event) :
    (∀ instanceId, ProducesAbove instanceId node event) ↔ Affordable node event := by
  have everywhere : (∀ instanceId, ProducesAbove instanceId node event) ↔
      ∀ number ∈ produced node event, ∀ used ∈ numbersUsed node.calls, used < number := by
    constructor
    · intro above number member used isUsed
      obtain ⟨instanceId, one⟩ := (mem_numbersUsed used node.calls).mp isUsed
      exact above instanceId number member used one
    · intro above instanceId number member used one
      exact above number member used ((mem_numbersUsed used node.calls).mpr ⟨instanceId, one⟩)
  rw [everywhere]
  rcases event_cases event with ⟨instanceInSM, memory, rfl⟩ | ordinary
  · simp only [produced, List.mem_singleton, forall_eq, restart_number, Affordable, largest]
    exact forall₂_congr fun used _ => WordOrder.lt_add_one_iff used _
  · have follow := ordinary.follows node covers.phase
    rw [ordinary.affords, ordinary.draws]
    cases called : proposal node event with
    | none => simp
    | some proposer =>
      rw [called] at follow
      obtain ⟨before, quiet, rfl, _⟩ := follow
      have kept := covers.quiet quiet
      simp only [Option.some.injEq, forall_eq']
      by_cases rejected : before.proposer.proposalCounter.someoneReject = true
      · rw [if_pos rejected]
        simp only [List.mem_singleton, forall_eq, rejected, forall_const]
        rw [← quiet.numbersUsed]
        rcases newProposalId_cases before.proposer.proposerState with
          ⟨fits, above⟩ | ⟨wraps, zero⟩
        · exact iff_of_true (fun used member => (kept.bounded used member).trans_lt above) fits
        · refine iff_of_false (fun all => ?_) wraps
          obtain ⟨used, member⟩ := List.exists_mem_of_ne_nil _ (kept.engaged (.inr rejected))
          have below := all used member
          rw [zero] at below
          exact absurd below (not_lt.mpr (WordOrder.zero_le used))
      · rw [if_neg rejected]
        simp [rejected]

/-- An event that a node can afford keeps its numbers covered. -/
theorem Covers.step {node : Node} (covers : Covers node) (event : Event)
    (affordable : Affordable node event) : Covers (step node event) := by
  rcases event_cases event with ⟨instanceInSM, memory, rfl⟩ | ordinary
  · refine covers_restart node instanceInSM memory fun used member => ?_
    exact (WordOrder.lt_add_one_iff used _).mpr (affordable used member)
  · have follow := ordinary.follows node covers.phase
    have fits := (ordinary.affords node).mp affordable
    cases called : proposal node event with
    | none =>
      rw [called] at follow
      exact covers.quiet follow
    | some proposer =>
      rw [called] at follow
      obtain ⟨before, quiet, rfl, after⟩ := follow
      exact ((covers.quiet quiet).propose (fits _ called)).quiet after

/-- The counter of a node covers the numbers that it has used in its instance and in later
ones. -/
structure CoversWithin (node : Node) : Prop where
  /-- No such number is above the own number. -/
  bounded : ∀ instanceId, node.instanceId ≤ instanceId →
    ∀ used ∈ numbersOf instanceId node.calls, used ≤ node.proposer.proposerState.myProposalId
  /-- The accept phase has not been entered. -/
  phase : node.proposer.status ≠ .kAccept

/-- A number used in one more request is an old one, or the number of the request. -/
theorem numbersOf_propose (node : Node) (instanceId : InstanceId) (used : ProposalId)
    (member : used ∈ numbersOf instanceId (propose node).calls) :
    used ∈ numbersOf instanceId node.calls ∨
      used = (startRound node.proposer).proposerState.myProposalId := by
  rw [numbersOf, requests_propose, List.filter_append, List.map_append] at member
  rcases List.mem_append.mp member with old | new
  · exact .inl old
  · obtain ⟨message, isNew, rfl⟩ := List.mem_map.mp new
    rw [List.mem_singleton.mp (List.mem_of_mem_filter isNew)]
    exact .inr rfl

/-- A quiet step uses no number in any instance. -/
theorem Quiet.numbersOf {before after : Node} (quiet : Quiet before after)
    (instanceId : InstanceId) :
    numbersOf instanceId after.calls = numbersOf instanceId before.calls := by
  rw [NumberReuse.numbersOf, quiet.requests]
  rfl

/-- An event that can be afforded within the instance produces numbers above those used there. -/
theorem CoversWithin.produces {node : Node} (covers : CoversWithin node) (event : Event)
    (affordable : AffordableWithin node event) :
    ProducesAbove (producingInstance node event) node event := by
  intro number produces used member
  rcases event_cases event with ⟨instanceInSM, memory, rfl⟩ | ordinary
  · rw [List.mem_singleton.mp produces, restart_number]
    exact (WordOrder.lt_add_one_iff used _).mpr (affordable _ le_rfl used member)
  · rw [ordinary.producing] at member
    rw [ordinary.draws] at produces
    have fits := (ordinary.affords node).mp (ordinary.within node affordable).1
    have follow := ordinary.follows node covers.phase
    cases called : proposal node event with
    | none =>
      rw [called] at produces
      exact absurd produces List.not_mem_nil
    | some proposer =>
      rw [called] at produces follow
      obtain ⟨before, quiet, rfl, _⟩ := follow
      simp only at produces
      split at produces
      · rename_i rejected
        rw [List.mem_singleton.mp produces]
        rcases newProposalId_cases before.proposer.proposerState with ⟨_, above⟩ | ⟨wraps, _⟩
        · rw [quiet.number] at above
          exact (covers.bounded _ le_rfl used member).trans_lt above
        · exact absurd (fits _ called rejected) wraps
      · exact absurd produces List.not_mem_nil

/-- Such an event keeps the numbers of the instance and of later ones covered. -/
theorem CoversWithin.step {node : Node} (covers : CoversWithin node) (event : Event)
    (affordable : AffordableWithin node event) : CoversWithin (step node event) := by
  rcases event_cases event with ⟨instanceInSM, memory, rfl⟩ | ordinary
  · constructor
    · intro instanceId later used member
      rw [NumberReuse.step, numbersOf, requests_restart] at member
      rw [NumberReuse.step, restart_number]
      exact ((WordOrder.lt_add_one_iff used _).mpr
        (affordable instanceId later used member)).le
    · obtain ⟨_, _, same, _⟩ := PaxController.restart_eq node instanceInSM memory
      rw [NumberReuse.step, same]
      exact fun phase => absurd phase (by simp)
  · obtain ⟨affords, rises⟩ := ordinary.within node affordable
    have fits := (ordinary.affords node).mp affords
    have follow := ordinary.follows node covers.phase
    cases called : proposal node event with
    | none =>
      rw [called] at follow
      refine ⟨fun instanceId later used member => ?_, follow.phase covers.phase⟩
      rw [follow.numbersOf] at member
      rw [follow.number]
      exact covers.bounded instanceId (rises.trans later) used member
    | some proposer =>
      rw [called] at follow
      obtain ⟨before, quiet, rfl, after⟩ := follow
      have drawn := startRound_rises before.proposer (fits _ called)
      refine ⟨fun instanceId later used member => ?_, after.phase ?_⟩
      · rw [after.numbersOf] at member
        rw [after.number, propose_eq]
        rcases numbersOf_propose before instanceId used member with old | rfl
        · rw [quiet.numbersOf] at old
          have below := covers.bounded instanceId (rises.trans later) used old
          exact (below.trans_eq quiet.number.symm).trans drawn
        · exact le_rfl
      · rw [propose_eq]
        exact fun phase => absurd phase (by simp [startRound])

/-- A node reuses no number exactly in the runs in which every event can afford its numbers, and
none within an instance in the runs in which every event can afford them there. -/
theorem neverReused_iff (options : PaxosOptions) (storage : PaxStore)
    (instanceInSM memory : InstanceId) (events : List Event) :
    (NeverReused (launched options storage instanceInSM memory) events ↔
        Runs.Along step Affordable (launched options storage instanceInSM memory) events) ∧
      (Runs.Along step AffordableWithin (launched options storage instanceInSM memory) events →
        NeverReusedWithin (launched options storage instanceInSM memory) events) := by
  have start : Covers (launched options storage instanceInSM memory) :=
    covers_restart { Node.fresh options memory with storage } instanceInSM memory
      fun used member => absurd member List.not_mem_nil
  constructor
  · have agree := Runs.along_congr (fun node event covers => producesAbove_iff covers event)
      (fun node event (covers : Covers node) affordable => covers.step event affordable) _ events
      start
    rw [← agree, Runs.along_iff]
    rfl
  · intro along
    have within : CoversWithin (launched options storage instanceInSM memory) := by
      refine ⟨fun instanceId _ used member => ?_, start.phase⟩
      exact start.bounded used ((mem_numbersUsed used _).mpr ⟨instanceId, member⟩)
    have above := along.imp (fun node event covers => CoversWithin.step covers event)
      (fun node event covers => CoversWithin.produces covers event) within
    exact (Runs.along_iff _ _).mp above

/-- Node seven proposes, crashes and comes back with the number of its request. -/
theorem neverReused_restart :
    ¬ NeverReusedWithin (launched ⟨7, 1 / 2, 3, 0⟩ (fun _ => none) 0 0)
        [.act (.newValue (some [42]) 1000), .restart 0 0] ∧
      ¬ NeverReused (launched ⟨7, 1 / 2, 3, 0⟩ (fun _ => none) 0 0)
        [.act (.newValue (some [42]) 1000), .restart 0 0] := by
  constructor
  · intro never
    have above := never [.act (.newValue (some [42]) 1000)] (.restart 0 0) [] rfl 1 (by decide) 1
      (by decide)
    exact absurd above (by decide)
  · intro never
    have above := never [.act (.newValue (some [42]) 1000)] (.restart 0 0) [] rfl 0 1 (by decide) 1
      (by decide)
    exact absurd above (by decide)

end NumberReuse
end Paxosme
