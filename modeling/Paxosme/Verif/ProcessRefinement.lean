import Paxosme.Lib.Mailboxes
import Paxosme.Verif.QuestionTimer

/-!
# Processes as nodes

In a cluster of processes a message waits in a queue until the main loop comes to it, a timer is
called when `Dispatch` returns it, and a new value comes from a provider that clients fill. The
cluster of nodes allows any message, timer and value at any time. Every run of the one is a run of
the other, so what holds in all runs of the nodes holds of the processes. `PaxController::Init` has
set the processes up before, whatever their main loops have done meanwhile.
-/

namespace Paxosme

open Delivery

/-- At the end of the controller's handler no learned value is left. -/
theorem PaxController.finish_settled (node : Node) (free : (finish node).blocked = false) :
    (finish node).learner.learnerState.learned = false := by
  cases blocked : node.blocked with
  | true =>
    rw [finish_blocked node blocked, blocked] at free
    cases free
  | false =>
    cases learned : node.learner.learnerState.learned with
    | true => rw [finish_learned node blocked learned]
    | false => rw [finish_unlearned node learned, learned]

/-- No player handles the message that tells of a new value. -/
theorem PaxController.handleMessage_placeHolder (routing : Routing) (node : Node)
    (message : PaxMessage) (kind : message.messageType = .newValueCommitted)
    (settled : node.blocked = false → node.learner.learnerState.learned = false) :
    handleMessage routing node message = node := by
  have ignored : dispatch routing (processChosenValue routing) node message = node := by
    simp only [dispatch, PaxLearner.handleMessage, PaxProposer.handleMessage,
      PaxAcceptor.handleMessage, kind, ite_self]
  rw [handleMessage, handleMessageBody, ignored]
  split
  · rfl
  · cases blocked : node.blocked with
    | true => exact finish_blocked node blocked
    | false => exact finish_unlearned node (settled blocked)

/-- A new value leaves the learner as it is. -/
theorem PaxProposer.newValue_learner (node : Node) (flushed : Option LogValue)
    (timeout : Millisec) : (newValue node flushed timeout).learner = node.learner := by
  cases flushed with
  | none => rfl
  | some value =>
    simp only [newValue, propose_eq]
    rfl

/-- A timer learns no value. -/
theorem TimerCallback.fire_learnerState (callback : TimerCallback) (node : Node)
    (free : node.blocked = false) :
    (callback.fire node).learner.learnerState = node.learner.learnerState := by
  cases callback with
  | proposeTimeoutCallback instanceId =>
    simp only [fire, PaxProposer.proposeTimeoutCallback]
    split
    · rfl
    · rw [PaxProposer.propose_eq]
  | newValueTimeoutCallback =>
    simp only [fire, PaxProposer.newValueTimeoutCallback]
    split
    · rfl
    · rfl
  | shallLearn =>
    rw [fire]
    cases held : node.learner.mutexFollow with
    | false => rw [PaxLearner.shallLearn_free node free held]
    | true => rw [PaxLearner.shallLearn_held node held]

/-- The sending thread learns no value. -/
theorem PaxLearner.sendingStep_learnerState (node : Node) (tooSlow : Bool) :
    (sendingStep node tooSlow).learner.learnerState = node.learner.learnerState := by
  unfold sendingStep
  cases node.learner.sendingPoint with
  | call | clear => rfl
  | _ =>
    dsimp only
    repeat' split
    all_goals rfl

namespace Process

/-- No learned value is left to a main thread that is not blocked. -/
def Settled (process : Process) : Prop :=
  process.node.blocked = false → process.node.learner.learnerState.learned = false

/-- The messages of other processes that wait in the queue. -/
def mail (process : Process) : List PaxMessage :=
  process.msgProv.queue.filter fun message => message.messageType ≠ .newValueCommitted

/-- What is in the queue after a call of `AddMessage`. -/
theorem mem_addMessage {process : Process} {message kept : PaxMessage}
    (member : kept ∈ (process.addMessage message).msgProv.queue) :
    kept = message ∨ kept ∈ process.msgProv.queue := by
  rw [addMessage, SafeQueue.tryAdd] at member
  split at member
  · rcases List.mem_append.mp member with old | new
    · exact .inr old
    · exact .inl (List.mem_singleton.mp new)
  · exact .inr member

/-- A message that is added is mail, or not. -/
theorem mem_mail_addMessage {process : Process} {message kept : PaxMessage}
    (member : kept ∈ (process.addMessage message).mail) :
    kept = message ∧ message.messageType ≠ .newValueCommitted ∨ kept ∈ process.mail := by
  obtain ⟨queued, kind⟩ := List.mem_filter.mp member
  rcases mem_addMessage queued with rfl | old
  · exact .inl ⟨rfl, by simpa using kind⟩
  · exact .inr (List.mem_filter.mpr ⟨old, kind⟩)

variable {heap : EventHeap EventType TimerCallback} {routing : Routing} {process after : Process}

/-- A step of a process as its node takes it. -/
structure Hosted (routing : Routing) (process after : Process) : Prop where
  /-- No learned value is left. -/
  settled : after.Settled
  /-- No mail comes. -/
  mail : ∀ kept ∈ after.mail, kept ∈ process.mail
  /-- The node rests, receives mail or acts. -/
  moves : (Cluster.party routing).Moves process.node process.mail
    (after.node, Cluster.posts (Node.callsSince process.node after.node))

/-- A step that leaves the node. -/
theorem hosted_rest (settled : process.Settled) (node : after.node = process.node)
    (mail : ∀ kept ∈ after.mail, kept ∈ process.mail) : Hosted routing process after := by
  refine ⟨?_, mail, ?_⟩
  · rw [Settled, node]
    exact settled
  · have silent : Node.callsSince process.node process.node = [] :=
      Node.callsSince_of_append (List.append_nil _).symm
    rw [node, silent]
    exact .rest

/-- A step of the players on the main thread, as a step of the node. -/
theorem perform_moves (free : process.node.blocked = false) (step : Node → Node)
    (node : after.node = step process.node) :
    (after.node, Cluster.posts (Node.callsSince process.node after.node)) =
      Cluster.perform (Cluster.onMainThread step) process.node := by
  rw [Cluster.perform, Cluster.onMainThread_free step process.node free, node]

/-- A step in which the node acts. -/
theorem hosted_act (free : process.node.blocked = false) (activity : Cluster.Activity)
    (step : Node → Node) (runs : activity.run = Cluster.onMainThread step)
    (node : after.node = step process.node) (settled : after.Settled)
    (mail : ∀ kept ∈ after.mail, kept ∈ process.mail) : Hosted routing process after := by
  refine ⟨settled, mail, ?_⟩
  rw [perform_moves free step node, ← runs]
  exact .act activity

/-- A step in which the message at the front is handled. -/
theorem hosted_receive (settled : process.Settled) (free : process.node.blocked = false)
    {message : PaxMessage} {rest : List PaxMessage}
    (queue : process.msgProv.queue = message :: rest)
    (node : after.node = PaxController.handleMessage routing process.node message)
    (left : after.msgProv.queue = rest) : Hosted routing process after := by
  have mail (kept : PaxMessage) (member : kept ∈ after.mail) : kept ∈ process.mail := by
    rw [Process.mail, left] at member
    obtain ⟨waits, kind⟩ := List.mem_filter.mp member
    exact List.mem_filter.mpr ⟨queue ▸ List.mem_cons_of_mem _ waits, kind⟩
  by_cases kind : message.messageType = .newValueCommitted
  · rw [PaxController.handleMessage_placeHolder routing process.node message kind settled] at node
    exact hosted_rest settled node mail
  · refine ⟨?_, mail, ?_⟩
    · rw [Settled, node, PaxController.handleMessage, PaxController.handleMessageBody]
      split
      · exact settled
      · exact PaxController.finish_settled _
    · rw [perform_moves free (PaxController.handleMessage routing · message) node]
      refine .receive message (List.mem_filter.mpr ⟨?_, ?_⟩)
      · rw [queue]
        exact List.mem_cons_self
      · simpa using kind

/-- A step of the main thread is one of the node. -/
theorem hosted_mainLoop (settled : process.Settled) (elapsed : List Nat)
    (stepped : mainLoop heap routing process elapsed = some after) :
    Hosted routing process after := by
  cases free : process.node.blocked with
  | true =>
    rw [mainLoop, free, if_pos rfl] at stepped
    obtain rfl := Option.some.inj stepped
    exact hosted_rest settled rfl fun _ kept => kept
  | false =>
    rw [mainLoop, free, if_neg Bool.false_ne_true] at stepped
    cases point : process.point with
    | dispatch =>
      rw [point] at stepped
      dsimp only at stepped
      cases returned : (process.tick (elapsed.headD 0)).scheduler.dispatch heap
          (process.tick (elapsed.headD 0)).clock with
      | mk event scheduler =>
        rw [returned] at stepped
        cases event with
        | none =>
          obtain rfl := Option.some.inj stepped
          exact hosted_rest settled rfl fun _ kept => kept
        | some event =>
          obtain rfl := Option.some.inj stepped
          obtain ⟨_, _, _, -, made⟩ := perform_eq heap
            { process.tick (elapsed.headD 0) with scheduler } event.callback.fire elapsed.tail
          rw [made]
          refine hosted_act free (.timer event.callback) event.callback.fire rfl rfl ?_
            fun _ kept => kept
          intro _
          have same := event.callback.fire_learnerState process.node free
          exact (congrArg PaxLearnerState.learned same).trans (settled free)
    | nextEventTime =>
      rw [point] at stepped
      dsimp only at stepped
      split at stepped
      · cases stepped
      · obtain rfl := Option.some.inj stepped
        exact hosted_rest settled rfl fun _ kept => kept
      · obtain rfl := Option.some.inj stepped
        exact hosted_rest settled rfl fun _ kept => kept
    | take deadline =>
      rw [point] at stepped
      dsimp only at stepped
      cases queue : process.msgProv.queue with
      | nil =>
        have nothing : (process.tick (elapsed.headD 0)).msgProv.take = none := by
          show process.msgProv.take = none
          rw [SafeQueue.take, queue]
        rw [nothing] at stepped
        dsimp only at stepped
        split at stepped
        · obtain rfl := Option.some.inj stepped
          exact hosted_rest settled rfl fun _ kept => kept
        · obtain rfl := Option.some.inj stepped
          exact hosted_rest settled rfl fun _ kept => kept
      | cons message rest =>
        have taken : (process.tick (elapsed.headD 0)).msgProv.take =
            some (message, { process.msgProv with queue := rest }) := by
          show process.msgProv.take = _
          rw [SafeQueue.take, queue]
        rw [taken] at stepped
        dsimp only at stepped
        split at stepped
        case isFalse => cases stepped
        obtain rfl := Option.some.inj stepped
        obtain ⟨_, _, _, -, made⟩ := perform_eq heap
          { process.tick (elapsed.headD 0) with
            msgProv := { process.msgProv with queue := rest }, point := .tryNewValue }
          (PaxController.handleMessage routing · message) elapsed.tail
        rw [made]
        exact hosted_receive settled free queue rfl rfl
    | tryNewValue =>
      rw [point] at stepped
      dsimp only at stepped
      split at stepped
      case isFalse => cases stepped
      obtain rfl := Option.some.inj stepped
      unfold tryNewValue
      split
      · exact hosted_rest settled rfl fun _ kept => kept
      · split
        · exact hosted_rest settled rfl fun _ kept => kept
        · dsimp only
          obtain ⟨_, _, _, -, made⟩ := perform_eq heap
            { process with
              prov := (process.prov.flush process.node.instanceId).1, point := .dispatch }
            (PaxProposer.newValue · (process.prov.flush process.node.instanceId).2
              process.newValueTimeout) elapsed
          rw [made]
          refine hosted_act free (.newValue _ _) _ rfl rfl ?_ fun _ kept => kept
          intro _
          have same := PaxProposer.newValue_learner process.node
            (process.prov.flush process.node.instanceId).2 process.newValueTimeout
          exact (congrArg (fun learner => learner.learnerState.learned) same).trans (settled free)

/-- Every step of a process of its own accord is one of its node. -/
theorem hosted_step (settled : process.Settled) (event : ProcessEvent) (own : IsOwn event)
    (stepped : step heap routing process event = some after) : Hosted routing process after := by
  cases event with
  | mainLoop elapsed => exact hosted_mainLoop settled elapsed stepped
  | addMessage message => exact own.elim
  | init elapsed => exact own.elim
  | submitAndWait value =>
    obtain rfl := Option.some.inj stepped
    have told (prov : ProposalProv) (kept : PaxMessage) (member : kept ∈ (addMessage
        { process with prov } (PaxMessage.new nodeDummy .newValueCommitted)).mail) :
        kept ∈ process.mail := by
      rcases mem_mail_addMessage member with ⟨-, mail⟩ | old
      · exact absurd rfl mail
      · exact old
    unfold submitAndWait
    split
    · exact hosted_rest settled rfl fun _ kept => kept
    · dsimp only
      split
      · exact hosted_rest settled rfl (told _)
      · exact hosted_rest settled rfl (told _)
  | wake index =>
    obtain rfl := Option.some.inj stepped
    unfold wake
    split
    · exact hosted_rest settled rfl fun _ kept => kept
    · exact hosted_rest settled rfl fun _ kept => kept
  | sending tooSlow =>
    obtain rfl := Option.some.inj stepped
    refine ⟨?_, fun _ kept => kept, .act (Cluster.Activity.sending tooSlow)⟩
    intro free
    have same := PaxLearner.sendingStep_learnerState process.node tooSlow
    have unblocked := sendingStep_blocked process.node tooSlow
    exact (congrArg PaxLearnerState.learned same).trans (settled (unblocked.symm.trans free))

variable (heap routing) in
/-- Processes host their nodes. -/
theorem party_hosts : (party heap routing).Hosts (Cluster.party routing) Settled node mail where
  receive process message settled := by
    refine ⟨settled, fun kept member => ?_, rfl, rfl⟩
    rcases mem_mail_addMessage member with ⟨same, -⟩ | old
    · exact .inl same
    · exact .inr old
  act process event settled := by
    cases stepped : step heap routing process event.val with
    | none =>
      have stays : (party heap routing).act process event = (process, []) := by
        simp only [party, stepped]
      rw [stays]
      exact ⟨settled, fun _ kept => kept, .rest⟩
    | some after =>
      have moved : (party heap routing).act process event =
          (after, Cluster.posts (Node.callsSince process.node after.node)) := by
        simp only [party, stepped]
      rw [moved]
      obtain ⟨settled', mail, moves⟩ := hosted_step settled event.val event.property stepped
      exact ⟨settled', mail, moves⟩

/-- A process whose main loop has just been started has learned nothing. -/
theorem settled_launch (process : Process) (prov : ProposalProv) (memory instanceInSM : InstanceId)
    (elapsed : List Nat) : (process.launch heap prov memory instanceInSM elapsed).Settled := by
  obtain ⟨_, _, same, -⟩ := PaxController.recover_eq process.node instanceInSM memory
  obtain ⟨_, _, _, -, made⟩ := perform_eq heap
    { node := PaxController.reborn process.node memory
      members := process.members
      newValueTimeout := process.newValueTimeout
      prov
      clock := process.clock }
    (PaxController.recover · instanceInSM) elapsed
  intro _
  rw [launch, made]
  dsimp only
  rw [same]

/-- `Init` learns no value. -/
theorem settled_init (settled : process.Settled) (elapsed : List Nat) :
    (process.init heap elapsed).Settled := by
  unfold init
  split
  · exact settled
  · exact settled
  · exact settled
  · obtain ⟨_, _, _, -, made⟩ :=
      perform_eq heap { process with initPoint := .returned } PaxLearner.init elapsed
    rw [made]
    exact settled
  · exact settled

/-- However `Init` and the main loop take turns, no learned value is left. -/
theorem settled_run {prov : ProposalProv} {memory instanceInSM : InstanceId} {elapsed : List Nat}
    {events : List ProcessEvent}
    (ran : run heap routing (process.launch heap prov memory instanceInSM elapsed) events =
      some after) : after.Settled := by
  have start : (process.launch heap prov memory instanceInSM elapsed).Settled :=
    settled_launch process prov memory instanceInSM elapsed
  refine Runs.reached (fun state event next settled stepped => ?_) start ran
  cases event with
  | addMessage message =>
    obtain rfl := Option.some.inj stepped
    exact settled
  | init elapsed =>
    obtain rfl := Option.some.inj stepped
    exact settled_init settled elapsed
  | mainLoop elapsed => exact (hosted_step settled (.mainLoop elapsed) trivial stepped).settled
  | submitAndWait value => exact (hosted_step settled (.submitAndWait value) trivial stepped).settled
  | wake index => exact (hosted_step settled (.wake index) trivial stepped).settled
  | sending tooSlow => exact (hosted_step settled (.sending tooSlow) trivial stepped).settled

/-- **A cluster of processes is a cluster of nodes.** From processes to whose main threads no
learned value is left and whose mail has been sent to them, in any order of their steps and with any
delivery of what they send, the nodes change and the messages are sent as in a run of the cluster in
which every node may handle any message that has been sent to it, let any timer run out and propose
any value at any time. So what every step of a node keeps holds of the nodes of processes, and of
what they send. -/
theorem processes_run_as_nodes (heap : EventHeap EventType TimerCallback) (routing : Routing)
    (members : List NodeId) (air air' : Air NodeId Process PaxMessage)
    (stamped : air.Stamped Settled mail)
    (run : Relation.ReflTransGen (LossyStep (party heap routing) members) air air') :
    Relation.ReflTransGen (LossyStep (Cluster.party routing) members) (air.guests node)
        (air'.guests node) ∧
      ∀ (Inv : Node → Prop) (Good : PaxMessage → Prop),
        (Cluster.party routing).Preserves Inv Good → (air.guests node).Sound Inv Good →
          (air'.guests node).Sound Inv Good := by
  have ran := ((party_hosts heap routing).lossy stamped run).1
  exact ⟨ran, fun Inv Good preserves sound => preserves.lossy sound ran⟩

/-- The first process of a node, when `Init` has returned. -/
def startedProcess : Process :=
  (run sortedTimers .source (firstProcess {1}) insideInit).getD (blankProcess {1})

/-- That process alone. -/
def sampleAir : Air NodeId Process PaxMessage := ⟨fun _ => startedProcess, []⟩

/-- The process acts on events, one after another. -/
def actOn (air : Air NodeId Process PaxMessage) (events : List { event // IsOwn event }) :
    Air NodeId Process PaxMessage :=
  events.foldl (fun air event =>
    air.react 1 ((party sortedTimers .source).act (air.states 1) event)) air

theorem actOn_run (air : Air NodeId Process PaxMessage) (events : List { event // IsOwn event }) :
    Relation.ReflTransGen (LossyStep (party sortedTimers .source) [1]) air (actOn air events) := by
  induction events generalizing air with
  | nil => exact .refl
  | cons event events ih => exact .head (.act air 1 List.mem_cons_self event) (ih _)

/-- A client submits a value; the main loop comes from its wait by `TryNewValue` to `Dispatch`. -/
def sampleEvents : List { event // IsOwn event } :=
  [⟨.submitAndWait [42], trivial⟩, ⟨.mainLoop [], trivial⟩, ⟨.mainLoop [], trivial⟩,
    ⟨.mainLoop [], trivial⟩, ⟨.mainLoop [], trivial⟩]

/-- The node proposes the value on the way. -/
theorem processes_run_as_nodes_proposal :
    (((actOn sampleAir sampleEvents).states 1).node.proposer.status = .kPropose ∧
      (actOn sampleAir sampleEvents).sent.length = 1) ∧
    Relation.ReflTransGen (LossyStep (Cluster.party .source) [1]) (sampleAir.guests node)
        ((actOn sampleAir sampleEvents).guests node) ∧
      ∀ (Inv : Node → Prop) (Good : PaxMessage → Prop),
        (Cluster.party .source).Preserves Inv Good → (sampleAir.guests node).Sound Inv Good →
          ((actOn sampleAir sampleEvents).guests node).Sound Inv Good := by
  have started : run sortedTimers .source (firstProcess {1}) insideInit = some startedProcess := rfl
  have stamped : sampleAir.Stamped Settled mail := fun id => ⟨settled_run started, nofun⟩
  exact ⟨by decide, processes_run_as_nodes sortedTimers .source [1] _ _ stamped
    (actOn_run sampleAir sampleEvents)⟩

end Process

end Paxosme
