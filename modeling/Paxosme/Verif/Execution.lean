import Paxosme.Lib.Runs
import Paxosme.Core.Cluster

/-!
# Executing the instances

`PaxController::HandleMessage` lets one player handle a message and then executes a learned
value, and the proposer calls it again from inside. A player's turn executes nothing, stays in
its instance and learns values of that instance alone; the end of the handler executes the value
learned last and resets the players. The end after a nested call finds them reset and does
nothing, so every instance is executed once, in order.
-/

namespace Paxosme
namespace Execution

/-- The value learned last for an instance among some calls. -/
def lastLearned (calls : List Call) (instanceId : InstanceId) : Option LogValue :=
  (((Node.learned calls).filter fun entry => entry.2 = instanceId).getLast?).map Prod.fst

/-- Every execution has the value learned last for its instance. -/
def Valued (calls : List Call) : Prop :=
  ∀ before instanceId value after, calls = before ++ .execute instanceId value :: after →
    lastLearned before instanceId = some value

/-- The main thread handles a message under some routing; a blocked one does not. -/
def step (node : Node) (input : Routing × PaxMessage) : Node :=
  Cluster.onMainThread (PaxController.handleMessage input.1 · input.2) node

/-- A node at the start of an instance: its learner has learned nothing. -/
def begun (node : Node) : Node := PaxLearner.newInstance node

/-- A run of the main thread executes its instances once, in order. -/
structure InOrder (start : Node) (inputs : List (Routing × PaxMessage)) : Prop where
  /-- The instances executed are those from the start on, and the current instance follows
  them. -/
  consecutive : Node.executed (Node.callsSince start (Runs.run step start inputs)) =
      (List.range (Node.executed (Node.callsSince start
        (Runs.run step start inputs))).length).map
          (fun offset => start.instanceId + UInt64.ofNat offset) ∧
    (Runs.run step start inputs).instanceId = start.instanceId +
      UInt64.ofNat (Node.executed (Node.callsSince start (Runs.run step start inputs))).length
  /-- Each is executed with the value learned last for it. -/
  valued : Valued (Node.callsSince start (Runs.run step start inputs))
  /-- After every message nothing is learned, and where an instance was executed the players
  are reset. -/
  settled : ∀ earlier input later, inputs = earlier ++ input :: later →
    (Runs.run step start (earlier ++ [input])).learner.learnerState.learned = false ∧
      (Node.executed (Node.callsSince (Runs.run step start earlier)
          (Runs.run step start (earlier ++ [input]))) ≠ [] →
        (Runs.run step start (earlier ++ [input])).acceptor = {} ∧
          (Runs.run step start (earlier ++ [input])).proposer.proposalCounter = {} ∧
          (Runs.run step start (earlier ++ [input])).learner.learnerState = {})

/-- The learned value after some values have been learned. -/
def afterLearning (state : PaxLearnerState) (values : List (LogValue × InstanceId)) :
    PaxLearnerState :=
  values.foldl (fun _ entry => { logValue := entry.1, learned := true }) state

/-- A turn of a player: it stays in its instance, executes nothing, and learns values of its
instance alone, of which the last one stands. -/
structure Turn (before after : Node) : Prop where
  /-- The instance is the same. -/
  instanceId : after.instanceId = before.instanceId
  /-- The calls of the turn. -/
  calls : ∃ later, after.calls = before.calls ++ later ∧ Node.executed later = [] ∧
    (∀ entry ∈ Node.learned later, entry.2 = before.instanceId) ∧
    after.learner.learnerState = afterLearning before.learner.learnerState (Node.learned later)

/-- Doing nothing is a turn. -/
theorem turn_refl (node : Node) : Turn node node :=
  ⟨rfl, [], (List.append_nil _).symm, rfl, by simp [Node.learned], rfl⟩

/-- Two turns make one. -/
theorem Turn.trans {first second third : Node} (before : Turn first second)
    (after : Turn second third) : Turn first third := by
  obtain ⟨early, appended, idle, own, learned⟩ := before.calls
  obtain ⟨late, appended', idle', own', learned'⟩ := after.calls
  refine ⟨after.instanceId.trans before.instanceId, early ++ late, ?_, ?_, ?_, ?_⟩
  · rw [appended', appended, List.append_assoc]
  · rw [Node.executed_append, idle, idle', List.nil_append]
  · intro entry member
    rw [Node.learned_append] at member
    rcases List.mem_append.mp member with old | new
    · exact own entry old
    · exact (own' entry new).trans before.instanceId
  · rw [learned', learned, Node.learned_append, afterLearning, afterLearning, afterLearning,
      List.foldl_append]

/-- A step that adds neither executions nor learned values is a turn. -/
theorem turn_plain {before after : Node} {later : List Call}
    (instanceId : after.instanceId = before.instanceId)
    (appended : after.calls = before.calls ++ later) (idle : Node.executed later = [])
    (nothing : Node.learned later = [])
    (same : after.learner.learnerState = before.learner.learnerState) : Turn before after :=
  ⟨instanceId, later, appended, idle, by simp [nothing], by rw [nothing]; exact same⟩

/-- A learner that learns nothing has its turn. -/
theorem turn_learnsNothing {before after : Node} (quiet : PaxLearner.LearnsNothing before after) :
    Turn before after := by
  obtain ⟨sent, appended, sends⟩ := quiet.calls
  have same := quiet.besides
  simp only [PaxLearner.besides, Prod.mk.injEq] at same
  refine turn_plain same.2.1 appended ?_ ?_ quiet.learnerState
  · refine List.filterMap_eq_nil_iff.mpr fun call member => ?_
    obtain ⟨nodeId, message, rfl⟩ := sends call member
    rfl
  · refine List.filterMap_eq_nil_iff.mpr fun call member => ?_
    obtain ⟨nodeId, message, rfl⟩ := sends call member
    rfl

/-- Learning from others is a turn. -/
theorem turn_learnFromOthers (node : Node) (message : PaxMessage) :
    Turn node (PaxLearner.learnFromOthers node message) := by
  by_cases current : message.instanceId = node.instanceId
  · rw [PaxLearner.learnFromOthers_current node message current]
    exact ⟨rfl, _, rfl, rfl, by simp [Node.learned, current], rfl⟩
  · rw [PaxLearner.learnFromOthers_outdated node message current]
    exact turn_plain rfl rfl rfl rfl rfl

/-- Learning from the own acceptor is a turn. -/
theorem turn_learnFromSelf (node : Node) (message : PaxMessage) :
    Turn node (PaxLearner.learnFromSelf node message) := by
  by_cases passes : PaxLearner.PassesSelf node message
  · rw [PaxLearner.learnFromSelf_passed node message passes]
    exact ⟨rfl, _, rfl, rfl, by simp [Node.learned, passes.1.1], rfl⟩
  · rw [PaxLearner.learnFromSelf_stopped node message passes]
    exact turn_refl node

/-- Handling a published value is a turn. -/
theorem turn_handleOthersPublish (node : Node) (message : PaxMessage) :
    Turn node (PaxLearner.handleOthersPublish node message) := by
  by_cases passes : PaxLearner.PassesPublish node message
  · rw [PaxLearner.handleOthersPublish_passed node message passes]
    exact turn_learnFromOthers node message
  · rw [PaxLearner.handleOthersPublish_stopped node message passes]
    exact turn_refl node

/-- The learner's handler is a turn. -/
theorem turn_learner (node : Node) (message : PaxMessage) :
    Turn node (PaxLearner.handleMessage node message) := by
  by_cases carries : PaxLearner.CarriesValue message
  · rcases carries with chosen | sent | broadcast | sync
    · have told : Turn (PaxLearner.learnFromSelf node message)
          (PaxLearner.handleSenderPublish node message) := turn_plain rfl rfl rfl rfl rfl
      simp only [PaxLearner.handleMessage, chosen]
      exact ((turn_learnFromSelf node message).trans told).trans (turn_handleOthersPublish _ _)
    · simp only [PaxLearner.handleMessage, sent]
      exact turn_handleOthersPublish node message
    · simp only [PaxLearner.handleMessage, broadcast]
      exact turn_handleOthersPublish node message
    · simp only [PaxLearner.handleMessage, sync]
      exact (turn_learnFromOthers node message).trans (turn_plain rfl rfl rfl rfl rfl)
  · exact turn_learnsNothing (PaxLearner.learnsNothing_handleMessage node message carries)

/-- The acceptor's handler is a turn. -/
theorem turn_acceptor (node : Node) (message : PaxMessage) :
    Turn node (PaxAcceptor.handleMessage node message) := by
  by_cases request : PaxAcceptor.IsRequest message
  · by_cases above : PaxAcceptor.promisedPair node.acceptor < PaxAcceptor.requestPair message
    · rw [PaxAcceptor.handleMessage_granted node message request above]
      exact turn_plain rfl rfl rfl rfl rfl
    · rw [PaxAcceptor.handleMessage_refused node message request above]
      exact turn_plain rfl rfl rfl rfl rfl
  · rw [PaxAcceptor.handleMessage_other node message request]
    exact turn_refl node

/-- `Propose` is a turn. -/
theorem turn_propose (node : Node) : Turn node (PaxProposer.propose node) := by
  rw [PaxProposer.propose_eq]
  exact turn_plain rfl rfl rfl rfl rfl

/-- Counted votes without a majority of grants are a turn. -/
theorem turn_relaunch (node : Node) (proposer : PaxProposer) (eventType : EventType)
    (delay : Millisec) (message : PaxMessage) :
    Turn node { node with
      proposer
      calls := node.calls ++ PaxProposer.relaunch proposer.proposalCounter node.options
        eventType delay message } := by
  refine turn_plain rfl rfl ?_ ?_ rfl
  · unfold PaxProposer.relaunch
    split
    · rfl
    · rfl
  · unfold PaxProposer.relaunch
    split
    · rfl
    · rfl

/-- Handling a promise acknowledgement is a turn. -/
theorem turn_handleProposeAck (node : Node) (message : PaxMessage) :
    Turn node (PaxProposer.handleProposeAck node message) := by
  by_cases discarded : PaxProposer.Discards .kPropose node message
  · rw [PaxProposer.handleProposeAck_discarded node message discarded]
    exact turn_refl node
  · by_cases majority : PaxProposer.ObservesMajority node message
    · rw [PaxProposer.handleProposeAck_majority node message discarded majority]
      have counted : Turn node (PaxProposer.withProposer node
          (PaxProposer.countProposeAck node message)) :=
        turn_plain rfl (List.append_nil _).symm rfl rfl rfl
      exact counted.trans (turn_propose _)
    · rw [PaxProposer.handleProposeAck_counted node message discarded majority]
      exact turn_relaunch node _ _ _ message

/-- A state that a turn reaches from an unlearned node whose main thread runs: the thread still
runs if a value was learned. -/
structure Reached (before after : Node) : Prop where
  /-- The turn. -/
  turn : Turn before after
  /-- A thread that has learned a value is not blocked. -/
  free : before.blocked = false → before.learner.learnerState.learned = false →
    after.learner.learnerState.learned = true → after.blocked = false

/-- A turn that learns nothing reaches a state. -/
theorem Turn.reached {before after : Node} (turn : Turn before after)
    (same : after.learner.learnerState = before.learner.learnerState) : Reached before after := by
  refine ⟨turn, fun _ unlearned learned => ?_⟩
  rw [same, unlearned] at learned
  exact absurd learned Bool.false_ne_true

/-- Learning from others does not block the thread. -/
theorem learnFromOthers_blocked (node : Node) (message : PaxMessage) :
    (PaxLearner.learnFromOthers node message).blocked = node.blocked := by
  by_cases current : message.instanceId = node.instanceId
  · rw [PaxLearner.learnFromOthers_current node message current]
  · rw [PaxLearner.learnFromOthers_outdated node message current]
    rfl

/-- Handling a published value does not block the thread. -/
theorem handleOthersPublish_blocked (node : Node) (message : PaxMessage) :
    (PaxLearner.handleOthersPublish node message).blocked = node.blocked := by
  by_cases passes : PaxLearner.PassesPublish node message
  · rw [PaxLearner.handleOthersPublish_passed node message passes, learnFromOthers_blocked]
  · rw [PaxLearner.handleOthersPublish_stopped node message passes]

/-- The learner's handler reaches a state. -/
theorem reached_learner (node : Node) (message : PaxMessage) :
    Reached node (PaxLearner.handleMessage node message) := by
  by_cases carries : PaxLearner.CarriesValue message
  · refine ⟨turn_learner node message, fun free _ _ => ?_⟩
    rw [← free]
    rcases carries with chosen | sent | broadcast | sync
    · have told : (PaxLearner.handleSenderPublish node message).blocked = node.blocked := by
        by_cases passes : PaxLearner.PassesSelf node message
        · rw [PaxLearner.handleSenderPublish,
            PaxLearner.learnFromSelf_passed node message passes]
          rfl
        · rw [PaxLearner.handleSenderPublish,
            PaxLearner.learnFromSelf_stopped node message passes]
          rfl
      simp only [PaxLearner.handleMessage, chosen]
      rw [handleOthersPublish_blocked, told]
    · simp only [PaxLearner.handleMessage, sent]
      exact handleOthersPublish_blocked node message
    · simp only [PaxLearner.handleMessage, broadcast]
      exact handleOthersPublish_blocked node message
    · simp only [PaxLearner.handleMessage, sync]
      exact learnFromOthers_blocked node message
  · have quiet := PaxLearner.learnsNothing_handleMessage node message carries
    exact (turn_learnsNothing quiet).reached quiet.learnerState

/-- The acceptor's handler reaches a state. -/
theorem reached_acceptor (node : Node) (message : PaxMessage) :
    Reached node (PaxAcceptor.handleMessage node message) := by
  have learner := congrArg Node.learner (PaxAcceptor.handleMessage_frame node message)
  exact (turn_acceptor node message).reached (congrArg PaxLearner.learnerState learner)

/-- Handling a promise acknowledgement reaches a state. -/
theorem reached_handleProposeAck (node : Node) (message : PaxMessage) :
    Reached node (PaxProposer.handleProposeAck node message) := by
  refine (turn_handleProposeAck node message).reached ?_
  by_cases discarded : PaxProposer.Discards .kPropose node message
  · rw [PaxProposer.handleProposeAck_discarded node message discarded]
  · by_cases majority : PaxProposer.ObservesMajority node message
    · rw [PaxProposer.handleProposeAck_majority node message discarded majority,
        PaxProposer.propose_eq]
      rfl
    · rw [PaxProposer.handleProposeAck_counted node message discarded majority]

/-- The end of the handler after its own end does nothing. -/
theorem finish_finish (node : Node) :
    PaxController.finish (PaxController.finish node) = PaxController.finish node := by
  cases blocked : node.blocked with
  | true => rw [PaxController.finish_blocked node blocked,
      PaxController.finish_blocked node blocked]
  | false =>
    cases learned : node.learner.learnerState.learned with
    | true =>
      refine PaxController.finish_unlearned _ ?_
      rw [PaxController.finish_learned node blocked learned]
    | false => rw [PaxController.finish_unlearned node learned,
        PaxController.finish_unlearned node learned]

/-- The nested call ends where a turn of the learner ends, or where it began. -/
theorem processChosenValue_reached (routing : Routing) (node : Node) (message : PaxMessage)
    (chosen : message.messageType = .valueChosen) :
    ∃ after, Reached node after ∧
      PaxController.finish (PaxController.processChosenValue routing node message) =
        PaxController.finish after := by
  have idle : Reached node node := (turn_refl node).reached rfl
  unfold PaxController.processChosenValue PaxController.handleMessageBody
  split
  · exact ⟨node, idle, rfl⟩
  · unfold PaxController.dispatch
    split
    · exact ⟨_, reached_learner node message, finish_finish _⟩
    · simp only [PaxProposer.handleMessage, PaxAcceptor.handleMessage, chosen, ite_self]
      exact ⟨node, idle, finish_finish node⟩

/-- Handling an accept acknowledgement ends, with the end of the handler, where a turn ends. -/
theorem handleAcceptAck_reached (routing : Routing) (node : Node) (message : PaxMessage) :
    ∃ after, Reached node after ∧
      PaxController.finish (PaxProposer.handleAcceptAck
          (PaxController.processChosenValue routing) node message) =
        PaxController.finish after := by
  by_cases discarded : PaxProposer.Discards .kAccept node message
  · rw [PaxProposer.handleAcceptAck_discarded _ node message discarded]
    exact ⟨node, (turn_refl node).reached rfl, rfl⟩
  · by_cases majority : (PaxProposer.countAcceptAck node message).proposalCounter.isMajorityAccepted
        node.options = true
    · rw [PaxProposer.handleAcceptAck_majority _ node message discarded majority]
      obtain ⟨after, reached, same⟩ := processChosenValue_reached routing
        (PaxProposer.withProposer node
          { PaxProposer.countAcceptAck node message with status := .kMajorityAccepted })
        (PaxProposer.chosenMessage node message) rfl
      -- a change of the proposer alone is invisible to a turn
      exact ⟨after, ⟨⟨reached.turn.instanceId, reached.turn.calls⟩, reached.free⟩, same⟩
    · rw [PaxProposer.handleAcceptAck_counted _ node message discarded majority]
      exact ⟨_, (turn_relaunch node _ _ _ message).reached rfl, rfl⟩

/-- **A top-level call** ends where the end of the handler leaves a turn of one player, the
nested call included. -/
theorem handleMessage_reached (routing : Routing) (node : Node) (message : PaxMessage)
    (unlearned : node.learner.learnerState.learned = false) :
    ∃ after, Reached node after ∧
      PaxController.handleMessage routing node message = PaxController.finish after := by
  have idle : Reached node node := (turn_refl node).reached rfl
  have nothing : node = PaxController.finish node :=
    (PaxController.finish_unlearned node unlearned).symm
  unfold PaxController.handleMessage PaxController.handleMessageBody
  split
  · exact ⟨node, idle, nothing⟩
  · unfold PaxController.dispatch
    split
    · exact ⟨_, reached_learner node message, rfl⟩
    · split
      · unfold PaxProposer.handleMessage
        split
        · exact ⟨_, reached_handleProposeAck node message, rfl⟩
        · exact handleAcceptAck_reached routing node message
        · exact ⟨node, idle, rfl⟩
      · split
        · exact ⟨_, reached_acceptor node message, rfl⟩
        · exact ⟨node, idle, rfl⟩

/-- Executions stay valued when calls are added whose executions are. -/
theorem Valued.append {first second : List Call} (valued : Valued first)
    (added : ∀ before instanceId value after,
      second = before ++ .execute instanceId value :: after →
        lastLearned (first ++ before) instanceId = some value) :
    Valued (first ++ second) := by
  intro before instanceId value after split
  rcases List.append_eq_append_iff.mp split with ⟨between, rfl, rest⟩ | ⟨between, early, rest⟩
  · exact added between instanceId value after rest
  · cases between with
    | nil =>
      rw [List.append_nil] at early
      have here := added [] instanceId value after rest.symm
      rwa [List.append_nil, early] at here
    | cons call between =>
      rw [List.cons_append, List.cons.injEq] at rest
      obtain ⟨rfl, _⟩ := rest
      exact valued before instanceId value between early

/-- Calls without executions are valued. -/
theorem no_execute {calls : List Call} (idle : Node.executed calls = []) (before after : List Call)
    (instanceId : InstanceId) (value : LogValue) :
    calls ≠ before ++ .execute instanceId value :: after := by
  rintro rfl
  rw [Node.executed_append] at idle
  simp [Node.executed] at idle

/-- The value that stands after learning is the one learned last. -/
theorem lastLearned_of_afterLearning {calls : List Call} {instanceId : InstanceId}
    {state : PaxLearnerState} (unlearned : state.learned = false)
    (own : ∀ entry ∈ Node.learned calls, entry.2 = instanceId)
    (learned : (afterLearning state (Node.learned calls)).learned = true) (earlier : List Call) :
    lastLearned (earlier ++ calls) instanceId =
      some (afterLearning state (Node.learned calls)).logValue := by
  rw [lastLearned, Node.learned_append, List.filter_append]
  have all : (Node.learned calls).filter (fun entry => entry.2 = instanceId) =
      Node.learned calls := by
    refine List.filter_eq_self.mpr fun entry member => ?_
    simpa using own entry member
  rw [all]
  generalize Node.learned calls = values at learned ⊢
  induction values using List.reverseRecOn with
  | nil =>
    rw [afterLearning, List.foldl_nil, unlearned] at learned
    exact absurd learned Bool.false_ne_true
  | append_singleton values entry =>
    rw [afterLearning, List.foldl_append]
    simp

/-- What holds between two top-level calls of a run. -/
structure Ordered (start node : Node) : Prop where
  /-- No value is learned. -/
  unlearned : node.learner.learnerState.learned = false
  /-- The calls made since the start: their executions are in order, and each has its value. -/
  calls : ∃ later, node.calls = start.calls ++ later ∧
    Node.executed later = (List.range (Node.executed later).length).map
      (fun offset => start.instanceId + UInt64.ofNat offset) ∧
    node.instanceId = start.instanceId + UInt64.ofNat (Node.executed later).length ∧
    Valued later

/-- A turn without a learned value keeps the order. -/
theorem Ordered.turn {start node after : Node} (ordered : Ordered start node)
    (turn : Turn node after) (unlearned : after.learner.learnerState.learned = false) :
    Ordered start after := by
  obtain ⟨later, appended, consecutive, current, valued⟩ := ordered.calls
  obtain ⟨added, appended', idle, _, _⟩ := turn.calls
  have same : Node.executed (later ++ added) = Node.executed later := by
    rw [Node.executed_append, idle, List.append_nil]
  refine ⟨unlearned, later ++ added, ?_, ?_, ?_, ?_⟩
  · rw [appended', appended, List.append_assoc]
  · rw [same]
    exact consecutive
  · rw [same, turn.instanceId]
    exact current
  · refine valued.append fun before instanceId value rest split => ?_
    exact absurd split (no_execute idle before rest instanceId value)

/-- A turn with a learned value, followed by the end of the handler, keeps the order. -/
theorem Ordered.finish {start node after : Node} (ordered : Ordered start node)
    (turn : Turn node after) (free : after.blocked = false)
    (learned : after.learner.learnerState.learned = true) :
    Ordered start (PaxController.finish after) := by
  obtain ⟨later, appended, consecutive, current, valued⟩ := ordered.calls
  obtain ⟨added, appended', idle, own, stands⟩ := turn.calls
  rw [PaxController.finish_learned after free learned]
  have final : Node.executed (PaxController.finalCalls after) = [after.instanceId] := rfl
  have executed : Node.executed (later ++ added ++ PaxController.finalCalls after) =
      Node.executed later ++ [after.instanceId] := by
    rw [Node.executed_append, Node.executed_append, idle, List.append_nil, final]
  have here : after.instanceId =
      start.instanceId + UInt64.ofNat (Node.executed later).length :=
    turn.instanceId.trans current
  refine ⟨rfl, later ++ added ++ PaxController.finalCalls after, ?_, ?_, ?_, ?_⟩
  · rw [appended', appended]
    simp only [List.append_assoc]
  · rw [executed, List.length_append, List.length_singleton, List.range_succ, List.map_append,
      ← consecutive, here]
    rfl
  · rw [executed, List.length_append, List.length_singleton, here, UInt64.ofNat_add,
      UInt64.add_assoc]
    rfl
  · have ours := valued.append fun before instanceId value rest split =>
      absurd split (no_execute idle before rest instanceId value)
    refine ours.append fun before instanceId value rest split => ?_
    cases before with
    | nil =>
      rw [List.nil_append, PaxController.finalCalls, List.cons.injEq, Call.execute.injEq] at split
      obtain ⟨⟨rfl, rfl⟩, _⟩ := split
      rw [List.append_nil, stands, turn.instanceId]
      rw [stands] at learned
      exact lastLearned_of_afterLearning ordered.unlearned own learned later
    | cons call before =>
      rw [PaxController.finalCalls, List.cons_append, List.cons.injEq] at split
      have absent : (PaxController.finalCalls after).tail ≠
          before ++ .execute instanceId value :: rest := no_execute rfl before rest _ _
      exact absurd split.2 absent

/-- A step of the main thread ends where the end of the handler leaves a turn. -/
theorem step_turn (node : Node) (input : Routing × PaxMessage)
    (unlearned : node.learner.learnerState.learned = false) :
    ∃ after, Turn node after ∧
      (after.learner.learnerState.learned = true → after.blocked = false) ∧
      step node input = PaxController.finish after := by
  cases blocked : node.blocked with
  | true =>
    refine ⟨node, turn_refl node, fun learned => ?_, ?_⟩
    · rw [unlearned] at learned
      exact absurd learned Bool.false_ne_true
    · rw [step, Cluster.onMainThread_blocked _ node blocked,
        PaxController.finish_blocked node blocked]
  | false =>
    obtain ⟨after, reached, same⟩ := handleMessage_reached input.1 node input.2 unlearned
    exact ⟨after, reached.turn, reached.free blocked unlearned,
      (Cluster.onMainThread_free _ node blocked).trans same⟩

/-- Every top-level call keeps the order. -/
theorem Ordered.step {start node : Node} (ordered : Ordered start node)
    (input : Routing × PaxMessage) : Ordered start (step node input) := by
  obtain ⟨after, turn, free, same⟩ := step_turn node input ordered.unlearned
  rw [same]
  cases learned : after.learner.learnerState.learned with
  | true => exact ordered.finish turn (free learned) learned
  | false =>
    rw [PaxController.finish_unlearned after learned]
    exact ordered.turn turn learned

/-- Where a top-level call executes an instance, it leaves the players reset. -/
theorem step_reset {node : Node} (unlearned : node.learner.learnerState.learned = false)
    (input : Routing × PaxMessage)
    (executed : Node.executed (Node.callsSince node (step node input)) ≠ []) :
    (step node input).acceptor = {} ∧ (step node input).proposer.proposalCounter = {} ∧
      (step node input).learner.learnerState = {} := by
  obtain ⟨after, turn, free, same⟩ := step_turn node input unlearned
  rw [same] at executed ⊢
  cases learned : after.learner.learnerState.learned with
  | true =>
    rw [PaxController.finish_learned after (free learned) learned]
    exact ⟨rfl, rfl, rfl⟩
  | false =>
    rw [PaxController.finish_unlearned after learned] at executed
    obtain ⟨added, appended, idle, _, _⟩ := turn.calls
    rw [Node.callsSince_of_append appended] at executed
    exact absurd idle executed

/-- **Every instance is executed exactly once, in order**, whatever the routing of each message,
from every state of a node at the start of an instance. -/
theorem inOrder (node : Node) (inputs : List (Routing × PaxMessage)) :
    InOrder (begun node) inputs := by
  have start : Ordered (begun node) (begun node) :=
    ⟨rfl, [], (List.append_nil _).symm, rfl, by simp [Node.executed],
      fun before instanceId value after split => by simp at split⟩
  have keeps (state : Node) (input : Routing × PaxMessage) (kept : Ordered (begun node) state) :
      Ordered (begun node) (step state input) :=
    kept.step input
  have ordered (earlier : List (Routing × PaxMessage)) :
      Ordered (begun node) (Runs.run step (begun node) earlier) :=
    Runs.invariant keeps _ earlier start
  obtain ⟨later, appended, consecutive, current, valued⟩ := (ordered inputs).calls
  have since := Node.callsSince_of_append appended
  constructor
  · rw [since]
    exact ⟨consecutive, current⟩
  · rw [since]
    exact valued
  · intro earlier input later _
    refine ⟨(ordered _).unlearned, ?_⟩
    rw [Runs.run_concat]
    exact step_reset (ordered earlier).unlearned input

end Execution
end Paxosme
