import Paxosme.Lib.Runs
import Paxosme.Core.Controller

/-!
# A running transfer

The sending thread of a learner shares four members with the main thread: the status of its job,
the receiver, the first instance to send and the highest instance acknowledged. A confirmation
writes them in the idle status only, an acknowledgement of the receiver raises the last one, and
the thread itself clears them at the end. So what the thread reads without the lock between its
locked sections is what the confirmation wrote, and the values sent are addressed to one node
and numbered without gaps.
-/

namespace Paxosme
namespace Transfer

/-- What can happen around a transfer: a step of the sending thread, a confirmation, an
acknowledgement, or the change of the instance. -/
inductive Event where
  | sending (tooSlow : Bool)
  | confirmLearn (message : PaxMessage)
  | valueAck (message : PaxMessage)
  | nextInstance
  deriving DecidableEq

/-- The state after an event. -/
def step (node : Node) : Event → Node
  | .sending tooSlow => PaxLearner.sendingStep node tooSlow
  | .confirmLearn message => PaxLearner.handleConfirmLearn node message
  | .valueAck message => PaxLearner.handleValueAck node message
  | .nextInstance => PaxController.newInstance node

/-- A node whose learner has no job, as it is constructed. -/
def idle (node : Node) : Node :=
  PaxLearner.withLearner node { node.learner with
    jobStatus := .kStale, receiver := nodeDummy, beginInstanceId := instanceDummy,
    ackSend := instanceDummy, sendingPoint := .waitForReady }

/-- The synchronised values among some calls: the node addressed and the instance. -/
def syncs (calls : List Call) : List (NodeId × InstanceId) :=
  calls.filterMap fun
    | .send nodeId message =>
      if message.messageType = .learnerValueSync then some (nodeId, message.instanceId) else none
    | _ => none

/-- The job is never stale after an event of a list. -/
def Busy (node : Node) (events : List Event) : Prop :=
  Runs.Along step (fun state event => (step state event).learner.jobStatus ≠ .kStale) node events

/-- No confirmation and no acknowledgement disturbs a transfer, in a run of some events. -/
structure Undisturbed (start : Node) (events : List Event) : Prop where
  /-- From the moment the status leaves `kStale`, receiver and first instance are constant. -/
  constant : ∀ earlier during later, events = earlier ++ during ++ later →
    (Runs.run step start earlier).learner.jobStatus ≠ .kStale →
    Busy (Runs.run step start earlier) during →
      (Runs.run step start (earlier ++ during)).learner.receiver =
          (Runs.run step start earlier).learner.receiver ∧
        (Runs.run step start (earlier ++ during)).learner.beginInstanceId =
          (Runs.run step start earlier).learner.beginInstanceId
  /-- Until it is cleared, the acknowledged instance does not fall. -/
  rising : ∀ earlier during later, events = earlier ++ during ++ later →
    Busy (Runs.run step start earlier) during →
      (Runs.run step start earlier).learner.ackSend ≤
        (Runs.run step start (earlier ++ during)).learner.ackSend
  /-- Until it is cleared, it changes on acknowledgements of the receiver alone. -/
  acknowledged : ∀ earlier event later, events = earlier ++ event :: later →
    (Runs.run step start (earlier ++ [event])).learner.jobStatus ≠ .kStale →
    (Runs.run step start (earlier ++ [event])).learner.ackSend ≠
        (Runs.run step start earlier).learner.ackSend →
      ∃ ack, event = .valueAck ack ∧
        ack.sender = (Runs.run step start earlier).learner.receiver
  /-- The values sent since the last stale state go to the receiver, with the instances from
  the first one on. -/
  consecutive : ∀ earlier during later, events = earlier ++ during ++ later →
    (Runs.run step start earlier).learner.jobStatus = .kStale →
    Busy (Runs.run step start earlier) during →
      ∃ count, syncs (Node.callsSince (Runs.run step start earlier)
          (Runs.run step start (earlier ++ during))) =
        (List.range count).map fun offset =>
          ((Runs.run step start (earlier ++ during)).learner.receiver,
            (Runs.run step start (earlier ++ during)).learner.beginInstanceId +
              UInt64.ofNat offset)
  /-- A value is sent only while the job is not stale, and its instance has been left. -/
  below : ∀ earlier event later, events = earlier ++ event :: later →
    ∀ sent ∈ syncs (Node.callsSince (Runs.run step start earlier)
        (Runs.run step start (earlier ++ [event]))),
      (Runs.run step start (earlier ++ [event])).learner.jobStatus ≠ .kStale ∧
        sent.2 < (Runs.run step start earlier).instanceId
  /-- A stale job has the dummies. -/
  stale : ∀ earlier later, events = earlier ++ later →
    (Runs.run step start earlier).learner.jobStatus = .kStale →
      (Runs.run step start earlier).learner.receiver = nodeDummy ∧
        (Runs.run step start earlier).learner.beginInstanceId = instanceDummy ∧
        (Runs.run step start earlier).learner.ackSend = instanceDummy

/-- The receiver that the sending thread holds in a local. -/
def localReceiver : SendingPoint → Option NodeId
  | .matchReceiver _ receiver => some receiver
  | .loopHead _ receiver => some receiver
  | .awaitAck _ _ receiver => some receiver
  | _ => none

/-- What the shared members have to do with the position and the locals of the sending
thread. -/
structure Settled (learner : PaxLearner) : Prop where
  /-- A stale job has the dummies. -/
  stale : learner.jobStatus = .kStale → learner.receiver = nodeDummy ∧
    learner.beginInstanceId = instanceDummy ∧ learner.ackSend = instanceDummy
  /-- Where the thread waits for a job, none is being sent. -/
  waiting : learner.sendingPoint = .waitForReady → learner.jobStatus ≠ .kSending
  /-- Elsewhere a job is being sent. -/
  running : learner.sendingPoint ≠ .waitForReady → learner.jobStatus = .kSending
  /-- The receiver in a local is the shared one. -/
  receiver : ∀ receiver, localReceiver learner.sendingPoint = some receiver →
    receiver = learner.receiver
  /-- The first instance in a local is the shared one. -/
  first : ∀ beginInstanceId receiver,
    learner.sendingPoint = .matchReceiver beginInstanceId receiver →
      beginInstanceId = learner.beginInstanceId

/-- An idle learner is settled. -/
theorem settled_idle (node : Node) : Settled (idle node).learner :=
  ⟨fun _ => ⟨rfl, rfl, rfl⟩, fun _ => by simp [idle, PaxLearner.withLearner],
    fun elsewhere => absurd rfl elsewhere, fun _ none => by simp [idle, localReceiver,
      PaxLearner.withLearner] at none, fun _ _ point => by simp [idle,
      PaxLearner.withLearner] at point⟩

/-- Where the job is stale, the thread waits for one. -/
theorem Settled.waits {learner : PaxLearner} (settled : Settled learner)
    (stale : learner.jobStatus = .kStale) : learner.sendingPoint = .waitForReady := by
  by_contra elsewhere
  have sending := settled.running elsewhere
  rw [stale] at sending
  exact absurd sending (by decide)

/-- The sending thread moves on within its job. -/
theorem Settled.move {learner : PaxLearner} (settled : Settled learner)
    (sending : learner.jobStatus = .kSending) (point : SendingPoint)
    (elsewhere : point ≠ .waitForReady)
    (receiver : ∀ receiver, localReceiver point = some receiver → receiver = learner.receiver)
    (first : ∀ beginInstanceId receiver, point = .matchReceiver beginInstanceId receiver →
      beginInstanceId = learner.beginInstanceId) :
    Settled { learner with sendingPoint := point } :=
  ⟨settled.stale, fun waiting => absurd waiting elsewhere, fun _ => sending, receiver, first⟩

/-- A step of the sending thread keeps its learner settled. -/
theorem Settled.sendingStep {node : Node} (settled : Settled node.learner) (tooSlow : Bool) :
    Settled (PaxLearner.sendingStep node tooSlow).learner := by
  unfold PaxLearner.sendingStep
  cases point : node.learner.sendingPoint with
  | waitForReady =>
    by_cases prepared : node.learner.jobStatus = .kPrepared
    · simp only [prepared, if_true]
      exact ⟨fun stale => by simp [PaxLearner.withLearner] at stale,
        fun waiting => by simp [PaxLearner.withLearner] at waiting, fun _ => rfl,
        fun _ none => by simp [PaxLearner.withLearner, localReceiver] at none,
        fun _ _ other => by simp [PaxLearner.withLearner] at other⟩
    · simp only [prepared, if_false]
      exact settled
  | call =>
    have sending := settled.running (by simp [point])
    exact settled.move sending _ (by simp) (fun _ same => (Option.some.inj same).symm)
      fun _ _ same => (SendingPoint.matchReceiver.inj same).1.symm
  | matchReceiver beginInstanceId receiver =>
    have sending := settled.running (by simp [point])
    have shared := settled.receiver receiver (by simp [point, localReceiver])
    simp only [shared, ne_eq, not_true_eq_false, if_false]
    exact settled.move sending _ (by simp) (fun _ same => (Option.some.inj same).symm) (by simp)
  | loopHead toSend receiver =>
    have sending := settled.running (by simp [point])
    have shared := settled.receiver receiver (by simp [point, localReceiver])
    by_cases left : toSend < node.instanceId
    · simp only [left, if_true]
      exact settled.move sending _ (by simp) (fun _ same => (Option.some.inj same).symm.trans shared)
        (by simp)
    · simp only [left, if_false]
      exact settled.move sending _ (by simp) (by simp [localReceiver]) (by simp)
  | awaitAck lastSend toSend receiver =>
    have sending := settled.running (by simp [point])
    have shared := settled.receiver receiver (by simp [point, localReceiver])
    simp only
    split
    · split
      · exact settled.move sending _ (by simp) (by simp [localReceiver]) (by simp)
      · exact settled
    · exact settled.move sending _ (by simp)
        (fun _ same => (Option.some.inj same).symm.trans shared) (by simp)
  | clear =>
    exact ⟨fun _ => ⟨rfl, rfl, rfl⟩,
      fun _ => by simp [PaxLearner.clearSendingState, PaxLearner.withLearner],
      fun elsewhere => absurd rfl elsewhere,
      fun _ none => by simp [PaxLearner.withLearner, localReceiver] at none,
      fun _ _ other => by simp [PaxLearner.withLearner] at other⟩

/-- Every event keeps a learner settled. -/
theorem Settled.step {node : Node} (settled : Settled node.learner) (event : Event) :
    Settled (step node event).learner := by
  cases event with
  | sending tooSlow => exact settled.sendingStep tooSlow
  | confirmLearn message =>
    simp only [Transfer.step, PaxLearner.handleConfirmLearn, PaxLearner.makeSenderReady]
    by_cases stale : node.learner.jobStatus = .kStale
    · simp only [stale, ne_eq, not_true_eq_false, if_false]
      have waiting := settled.waits stale
      exact ⟨fun other => by simp [PaxLearner.withLearner] at other,
        fun _ => by simp [PaxLearner.withLearner], fun elsewhere => absurd waiting elsewhere,
        fun _ held => by simp [PaxLearner.withLearner, waiting, localReceiver] at held,
        fun _ _ other => by simp [PaxLearner.withLearner, waiting] at other⟩
    · simp only [ne_eq, stale, not_false_eq_true, if_true]
      exact settled
  | valueAck message =>
    simp only [Transfer.step, PaxLearner.handleValueAck]
    split
    · exact settled
    · rename_i accepted
      split
      · have sending : node.learner.jobStatus = .kSending := by
          by_contra other
          exact accepted (.inl other)
        exact ⟨fun stale => by simp [PaxLearner.withLearner, sending] at stale, settled.waiting,
          settled.running, settled.receiver, settled.first⟩
      · exact settled
  | nextInstance =>
    exact ⟨settled.stale, settled.waiting, settled.running, settled.receiver, settled.first⟩

/-- A step of the sending thread clears the job, or it leaves receiver, first instance and
acknowledged instance as they are. -/
theorem sendingStep_shared (node : Node) (tooSlow : Bool) :
    (PaxLearner.sendingStep node tooSlow).learner.jobStatus = .kStale ∨
      (PaxLearner.sendingStep node tooSlow).learner.receiver = node.learner.receiver ∧
        (PaxLearner.sendingStep node tooSlow).learner.beginInstanceId =
          node.learner.beginInstanceId ∧
        (PaxLearner.sendingStep node tooSlow).learner.ackSend = node.learner.ackSend := by
  unfold PaxLearner.sendingStep
  cases point : node.learner.sendingPoint with
  | waitForReady =>
    simp only
    split
    · exact .inr ⟨rfl, rfl, rfl⟩
    · exact .inr ⟨rfl, rfl, rfl⟩
  | call => exact .inr ⟨rfl, rfl, rfl⟩
  | matchReceiver beginInstanceId receiver =>
    simp only
    split
    · exact .inr ⟨rfl, rfl, rfl⟩
    · exact .inr ⟨rfl, rfl, rfl⟩
  | loopHead toSend receiver =>
    simp only
    split
    · exact .inr ⟨rfl, rfl, rfl⟩
    · exact .inr ⟨rfl, rfl, rfl⟩
  | awaitAck lastSend toSend receiver =>
    simp only
    split
    · split
      · exact .inr ⟨rfl, rfl, rfl⟩
      · exact .inr ⟨rfl, rfl, rfl⟩
    · exact .inr ⟨rfl, rfl, rfl⟩
  | clear => exact .inl rfl

/-- What one event that does not end in the stale status may change of the shared members. -/
structure Keeps (before : PaxLearner) (event : Event) (after : PaxLearner) : Prop where
  /-- Receiver and first instance are written in the stale status alone. -/
  constant : before.jobStatus ≠ .kStale →
    after.receiver = before.receiver ∧ after.beginInstanceId = before.beginInstanceId
  /-- The acknowledged instance does not fall. -/
  rising : before.ackSend ≤ after.ackSend
  /-- It changes on acknowledgements of the receiver alone. -/
  acknowledged : after.ackSend ≠ before.ackSend →
    ∃ ack, event = .valueAck ack ∧ ack.sender = before.receiver

/-- Every event that does not end in the stale status keeps the shared members so. -/
theorem keeps_step (node : Node) (event : Event)
    (busy : (step node event).learner.jobStatus ≠ .kStale) :
    Keeps node.learner event (step node event).learner := by
  cases event with
  | sending tooSlow =>
    rcases sendingStep_shared node tooSlow with cleared | ⟨receiver, first, acknowledged⟩
    · exact absurd cleared busy
    · exact ⟨fun _ => ⟨receiver, first⟩, acknowledged.ge,
        fun changed => absurd acknowledged changed⟩
  | confirmLearn message =>
    simp only [step, PaxLearner.handleConfirmLearn, PaxLearner.makeSenderReady]
    split
    · exact ⟨fun _ => ⟨rfl, rfl⟩, le_rfl, fun changed => absurd rfl changed⟩
    · rename_i stale
      exact ⟨fun other => absurd other stale, le_rfl, fun changed => absurd rfl changed⟩
  | valueAck message =>
    simp only [step, PaxLearner.handleValueAck]
    split
    · exact ⟨fun _ => ⟨rfl, rfl⟩, le_rfl, fun changed => absurd rfl changed⟩
    · rename_i accepted
      have sender : node.learner.receiver = message.sender := by
        by_contra other
        exact accepted (.inr other)
      split
      · rename_i higher
        exact ⟨fun _ => ⟨rfl, rfl⟩, higher.le, fun _ => ⟨message, rfl, sender.symm⟩⟩
      · exact ⟨fun _ => ⟨rfl, rfl⟩, le_rfl, fun changed => absurd rfl changed⟩
  | nextInstance => exact ⟨fun _ => ⟨rfl, rfl⟩, le_rfl, fun changed => absurd rfl changed⟩

/-- Along events that leave the job busy, receiver and first instance are constant. -/
theorem Busy.constant {node : Node} {events : List Event} (busy : Busy node events)
    (started : node.learner.jobStatus ≠ .kStale) :
    (Runs.run step node events).learner.receiver = node.learner.receiver ∧
      (Runs.run step node events).learner.beginInstanceId = node.learner.beginInstanceId := by
  induction events generalizing node with
  | nil => exact ⟨rfl, rfl⟩
  | cons event events ih =>
    obtain ⟨receiver, first⟩ := (keeps_step node event busy.1).constant started
    obtain ⟨receivers, firsts⟩ := ih busy.2 busy.1
    exact ⟨receivers.trans receiver, firsts.trans first⟩

/-- Along events that leave the job busy, the acknowledged instance does not fall. -/
theorem Busy.rising {node : Node} {events : List Event} (busy : Busy node events) :
    node.learner.ackSend ≤ (Runs.run step node events).learner.ackSend := by
  have rises : Runs.Along step (fun state event =>
      state.learner.ackSend ≤ (step state event).learner.ackSend) node events := by
    induction events generalizing node with
    | nil => trivial
    | cons event events ih => exact ⟨(keeps_step node event busy.1).rising, ih busy.2⟩
  exact rises.le_run

/-- The main thread's events send nothing. -/
theorem step_calls (node : Node) (event : Event) (main : ∀ tooSlow, event ≠ .sending tooSlow) :
    (step node event).calls = node.calls := by
  cases event with
  | sending tooSlow => exact absurd rfl (main tooSlow)
  | confirmLearn message =>
    simp only [step, PaxLearner.handleConfirmLearn, PaxLearner.makeSenderReady]
    split
    · rfl
    · rfl
  | valueAck message =>
    simp only [step, PaxLearner.handleValueAck]
    repeat' split
    all_goals rfl
  | nextInstance => rfl

/-- How the next instance to send is told by the number of values sent so far. -/
def Counts (learner : PaxLearner) (count : Nat) : Prop :=
  match learner.sendingPoint with
  | .loopHead toSend _ => toSend = learner.beginInstanceId + UInt64.ofNat count
  | .awaitAck _ toSend _ => toSend = learner.beginInstanceId + UInt64.ofNat count
  | .clear => True
  | _ => count = 0

/-- The values sent since a stale state are numbered from the first instance on. -/
structure Underway (origin node : Node) : Prop where
  /-- The learner is settled. -/
  settled : Settled node.learner
  /-- The values sent so far, and their number. -/
  sent : ∃ later count, node.calls = origin.calls ++ later ∧
    (syncs later = (List.range count).map fun offset =>
      (node.learner.receiver, node.learner.beginInstanceId + UInt64.ofNat offset)) ∧
    Counts node.learner count

/-- A step that sends nothing and keeps receiver, first instance and count keeps a transfer
underway. -/
theorem Underway.silent {origin before after : Node} (underway : Underway origin before)
    (settled : Settled after.learner) (calls : after.calls = before.calls)
    (receiver : after.learner.receiver = before.learner.receiver)
    (first : after.learner.beginInstanceId = before.learner.beginInstanceId)
    (counts : ∀ count, Counts before.learner count → Counts after.learner count) :
    Underway origin after := by
  obtain ⟨later, count, appended, sent, counted⟩ := underway.sent
  exact ⟨settled, later, count, calls.trans appended, by rw [receiver, first]; exact sent,
    counts count counted⟩

/-- A step of the sending thread that sends nothing keeps the count. -/
theorem counts_sendingStep {node : Node} (settled : Settled node.learner) (tooSlow : Bool)
    (busy : (PaxLearner.sendingStep node tooSlow).learner.jobStatus ≠ .kStale)
    (silent : (PaxLearner.sendingStep node tooSlow).calls = node.calls) (count : Nat)
    (counted : Counts node.learner count) :
    Counts (PaxLearner.sendingStep node tooSlow).learner count := by
  unfold PaxLearner.sendingStep at busy silent ⊢
  cases point : node.learner.sendingPoint with
  | waitForReady =>
    have none : count = 0 := by simpa [Counts, point] using counted
    simp only
    split
    · exact none
    · exact counted
  | call =>
    have none : count = 0 := by simpa [Counts, point] using counted
    exact none
  | matchReceiver beginInstanceId receiver =>
    have none : count = 0 := by simpa [Counts, point] using counted
    have first := settled.first beginInstanceId receiver point
    simp only
    split
    · trivial
    · simp [Counts, PaxLearner.withLearner, none, first]
  | loopHead toSend receiver =>
    by_cases left : toSend < node.instanceId
    · simp [point, left, PaxLearner.sendLearnedValue, PaxLearner.withLearner, Node.sendMessage,
        Node.record] at silent
    · simp only [left, if_false]
      trivial
  | awaitAck lastSend toSend receiver =>
    have next : toSend = node.learner.beginInstanceId + UInt64.ofNat count := by
      simpa [Counts, point] using counted
    simp only
    split
    · split
      · trivial
      · exact counted
    · exact next
  | clear => simp [point, PaxLearner.clearSendingState, PaxLearner.withLearner] at busy

/-- A step of the sending thread that does not clear the job keeps a transfer underway. -/
theorem Underway.sendingStep {origin node : Node} (underway : Underway origin node)
    (tooSlow : Bool)
    (busy : (PaxLearner.sendingStep node tooSlow).learner.jobStatus ≠ .kStale) :
    Underway origin (PaxLearner.sendingStep node tooSlow) := by
  have settled := underway.settled.sendingStep tooSlow
  rcases PaxLearner.sendingStep_calls node tooSlow with
    silent | ⟨toSend, receiver, message, point, _, kind, named, appended, learner⟩
  · rcases sendingStep_shared node tooSlow with cleared | ⟨receiver, first, _⟩
    · exact absurd cleared busy
    · exact underway.silent settled silent receiver first
        (counts_sendingStep underway.settled tooSlow busy silent)
  · obtain ⟨later, count, before, sent, counted⟩ := underway.sent
    have shared := underway.settled.receiver receiver (by simp [point, localReceiver])
    have next : toSend = node.learner.beginInstanceId + UInt64.ofNat count := by
      simpa [Counts, point] using counted
    refine ⟨settled, later ++ [.send receiver message], count + 1, ?_, ?_, ?_⟩
    · rw [appended, before, List.append_assoc]
    · rw [learner, List.range_succ, List.map_append, ← sent]
      simp [syncs, kind, named, next, shared]
    · rw [learner]
      simp [Counts, next, UInt64.ofNat_add, UInt64.add_assoc]

/-- An event that does not clear the job keeps a transfer underway. -/
theorem Underway.step {origin node : Node} (underway : Underway origin node) (event : Event)
    (busy : (step node event).learner.jobStatus ≠ .kStale) :
    Underway origin (step node event) := by
  have settled := underway.settled.step event
  cases event with
  | sending tooSlow => exact underway.sendingStep tooSlow busy
  | confirmLearn message =>
    by_cases stale : node.learner.jobStatus = .kStale
    · -- the transfer starts here: the thread waits, so nothing has been sent
      obtain ⟨later, count, appended, sent, counted⟩ := underway.sent
      have waiting := underway.settled.waits stale
      have none : count = 0 := by simpa [Counts, waiting] using counted
      refine ⟨settled, later, 0, ?_, ?_, ?_⟩
      · rw [step_calls node _ (by simp), appended]
      · rw [sent, none]
        rfl
      · simp [Transfer.step, PaxLearner.handleConfirmLearn, PaxLearner.makeSenderReady, stale,
          PaxLearner.withLearner, Counts, waiting]
    · obtain ⟨receiver, first⟩ := (keeps_step node _ busy).constant stale
      refine underway.silent settled (step_calls node _ (by simp)) receiver first
        fun count counted => ?_
      simpa [Transfer.step, PaxLearner.handleConfirmLearn, PaxLearner.makeSenderReady, stale]
        using counted
  | valueAck message =>
    simp only [Transfer.step, PaxLearner.handleValueAck] at settled ⊢
    split
    · exact underway
    · rename_i accepted
      split
      · rename_i higher
        simp only [accepted, if_false, higher, if_true] at settled
        exact underway.silent settled rfl rfl rfl fun _ counted => counted
      · exact underway
  | nextInstance => exact underway.silent settled rfl rfl rfl fun _ counted => counted

/-- A stale state is the start of a transfer. -/
theorem underway_refl {node : Node} (settled : Settled node.learner)
    (stale : node.learner.jobStatus = .kStale) : Underway node node := by
  have waiting := settled.waits stale
  exact ⟨settled, [], 0, (List.append_nil _).symm, rfl, by simp [Counts, waiting]⟩

/-- What is sent in one step is sent by a job that is not stale, and has been left. -/
theorem sent_below {node : Node} (settled : Settled node.learner) (event : Event)
    (sent : NodeId × InstanceId)
    (member : sent ∈ syncs (Node.callsSince node (step node event))) :
    (step node event).learner.jobStatus ≠ .kStale ∧ sent.2 < node.instanceId := by
  have silent (same : (step node event).calls = node.calls) : False := by
    rw [Node.callsSince_of_append (same.trans (List.append_nil _).symm)] at member
    simp [syncs] at member
  cases event with
  | sending tooSlow =>
    rcases PaxLearner.sendingStep_calls node tooSlow with
      same | ⟨toSend, receiver, message, point, left, kind, named, appended, learner⟩
    · exact (silent same).elim
    · rw [step, Node.callsSince_of_append appended] at member
      have isNext : sent = (receiver, toSend) := by simpa [syncs, kind, named] using member
      have sending := settled.running (by simp [point])
      refine ⟨?_, by rw [isNext]; exact left⟩
      rw [step, learner, sending]
      decide
  | confirmLearn message => exact (silent (step_calls node _ (by simp))).elim
  | valueAck message => exact (silent (step_calls node _ (by simp))).elim
  | nextInstance => exact (silent (step_calls node _ (by simp))).elim

/-- **A running transfer is not hijacked**, in any interleaving of the sending thread with
confirmations, acknowledgements and changes of the instance, whoever sends them. -/
theorem undisturbed (node : Node) (events : List Event) : Undisturbed (idle node) events := by
  have keeps (state : Node) (event : Event) (kept : Settled state.learner) :
      Settled (step state event).learner :=
    kept.step event
  have settled (earlier : List Event) : Settled (Runs.run step (idle node) earlier).learner :=
    Runs.invariant keeps _ earlier (settled_idle node)
  constructor
  · intro earlier during later _ started busy
    rw [Runs.run_append]
    exact busy.constant started
  · intro earlier during later _ busy
    rw [Runs.run_append]
    exact busy.rising
  · intro earlier event later _ busy changed
    rw [Runs.run_concat] at busy changed
    exact (keeps_step _ event busy).acknowledged changed
  · intro earlier during later _ stale busy
    have underway := busy.invariant (fun _ event kept notStale => kept.step event notStale)
      (underway_refl (settled earlier) stale)
    rw [Runs.run_append]
    obtain ⟨sent, count, appended, numbered, _⟩ := underway.sent
    exact ⟨count, by rw [Node.callsSince_of_append appended, numbered]⟩
  · intro earlier event later _ sent member
    rw [Runs.run_concat] at member ⊢
    exact sent_below (settled earlier) event sent member
  · intro earlier later _ stale
    exact (settled earlier).stale stale

end Transfer
end Paxosme
