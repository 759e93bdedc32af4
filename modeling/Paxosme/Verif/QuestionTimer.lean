import Paxosme.Core.MainLoop
import Paxosme.Verif.NodeInvariant
import Paxosme.Verif.Timers

/-!
# The question of the learner

`NextEventTime` reads the front of an empty vector when events wait but none of them is armed. The
main loop is safe from that once `PaxController::Init` has returned: the learner arms the timer of
its question at the end of `Init` and again whenever the question is asked or put off, and no call
removes it. So a timer is armed as often as the loop comes to `NextEventTime`, and the loop never
waits longer than the longest delay with which a timer is armed.
-/

namespace Paxosme

namespace PaxLearner

/-- A call of the learner's handler: of all timers, only that of the question is armed. -/
def AskingCall : Call → Prop
  | .addEvent eventType callback delay =>
    eventType = .shallILearn ∧ callback = .shallLearn ∧ delay = shallLearnDelay
  | .broadcast message => message.messageType = .valueChosenBroadcast
  | .send _ _ | .writeLog _ | .learnNew _ _ _ _ => True
  | .removeEvent _ | .flush _ _ | .writeResult _ _ _ | .execute _ _ => False

variable (node : Node) (message : PaxMessage)

/-- The calls of learning from others. -/
theorem learnFromOthers_asks : Node.Adds AskingCall node (learnFromOthers node message) := by
  by_cases current : message.instanceId = node.instanceId
  · rw [learnFromOthers_current node message current]
    exact ⟨_, rfl, by simp [AskingCall]⟩
  · rw [learnFromOthers_outdated node message current]
    exact Node.adds_record _ _ ⟨rfl, rfl, rfl⟩

/-- The calls of handling a published value. -/
theorem handleOthersPublish_asks :
    Node.Adds AskingCall node (handleOthersPublish node message) := by
  by_cases passes : PassesPublish node message
  · rw [handleOthersPublish_passed node message passes]
    exact learnFromOthers_asks node message
  · rw [handleOthersPublish_stopped node message passes]
    exact Node.adds_of_eq rfl

/-- The calls of handling the node's own notification. -/
theorem handleSenderPublish_asks :
    Node.Adds AskingCall node (handleSenderPublish node message) := by
  have learned : Node.Adds AskingCall node (learnFromSelf node message) := by
    by_cases passes : PassesSelf node message
    · rw [learnFromSelf_passed node message passes]
      exact ⟨_, rfl, by simp [AskingCall]⟩
    · rw [learnFromSelf_stopped node message passes]
      exact Node.adds_of_eq rfl
  have told : Node.Adds AskingCall (learnFromSelf node message)
      (handleSenderPublish node message) := Node.adds_record _ _ rfl
  exact learned.trans told

/-- The calls of the learner's handler. -/
theorem handleMessage_asks : Node.Adds AskingCall node (handleMessage node message) := by
  by_cases carries : CarriesValue message
  · rcases carries with chosen | sent | broadcast | sync
    · simp only [handleMessage, chosen]
      exact (handleSenderPublish_asks node message).trans (handleOthersPublish_asks _ message)
    · simp only [handleMessage, sent]
      exact handleOthersPublish_asks node message
    · simp only [handleMessage, broadcast]
      exact handleOthersPublish_asks node message
    · simp only [handleMessage, sync]
      have learned := learnFromOthers_asks node message
      exact learned.trans (Node.adds_record _ _ trivial)
  · obtain ⟨sent, appended, sends⟩ := (learnsNothing_handleMessage node message carries).calls
    refine ⟨sent, appended, fun call member => ?_⟩
    obtain ⟨nodeId, other, rfl⟩ := sends call member
    trivial

end PaxLearner

/-- The delay with which a timer of each type is armed. -/
def delayOf (newValueTimeout : Millisec) : EventType → Millisec
  | .proposeTimeout => PaxProposer.proposeTimeout
  | .acceptTimeout => PaxProposer.acceptTimeout
  | .newValueTimeout => newValueTimeout
  | .shallILearn => PaxLearner.shallLearnDelay

/-- A call that arms timers with the delays of their types, that of the question with the question,
which it does not remove. -/
def TimerCall (newValueTimeout : Millisec) : Call → Prop
  | .addEvent eventType callback delay =>
    delay = delayOf newValueTimeout eventType ∧ (eventType = .shallILearn → callback = .shallLearn)
  | .removeEvent eventType => eventType ≠ .shallILearn
  | _ => True

section TimerCalls

variable {timeout : Millisec}

/-- The learner arms the timer of the question, and no other. -/
theorem PaxLearner.AskingCall.timerCall (call : Call) (asking : PaxLearner.AskingCall call) :
    TimerCall timeout call := by
  cases call with
  | addEvent eventType callback delay =>
    obtain ⟨rfl, rfl, rfl⟩ := asking
    exact ⟨rfl, fun _ => rfl⟩
  | removeEvent => exact asking.elim
  | _ => trivial

/-- The calls of `Propose`. -/
theorem propose_timerCalls (node : Node) :
    Node.Adds (TimerCall timeout) node (PaxProposer.propose node) := by
  rw [PaxProposer.propose_eq]
  exact ⟨_, rfl, by simp [TimerCall, delayOf]⟩

/-- The calls with which a round is armed again. -/
theorem relaunch_timerCalls (counter : ProposalCounter) (options : PaxosOptions)
    (eventType : EventType) (delay : Millisec) (message : PaxMessage)
    (known : delay = delayOf timeout eventType) (other : eventType ≠ .shallILearn) :
    ∀ call ∈ PaxProposer.relaunch counter options eventType delay message,
      TimerCall timeout call := by
  intro call member
  unfold PaxProposer.relaunch at member
  split at member
  · rw [List.mem_singleton.mp member]
    exact ⟨known, fun same => absurd same other⟩
  · exact absurd member List.not_mem_nil

/-- The calls of a promise acknowledgement that is counted. -/
theorem handleProposeAck_timerCalls (node : Node) (message : PaxMessage)
    (passes : ¬ PaxProposer.Discards .kPropose node message) :
    Node.Adds (TimerCall timeout) node (PaxProposer.handleProposeAck node message) := by
  by_cases majority : PaxProposer.ObservesMajority node message
  · rw [PaxProposer.handleProposeAck_majority node message passes majority]
    exact propose_timerCalls (PaxProposer.withProposer node _)
  · rw [PaxProposer.handleProposeAck_counted node message passes majority]
    exact ⟨_, rfl, relaunch_timerCalls _ _ .proposeTimeout _ message rfl (by decide)⟩

variable (timeout) in
/-- Every call that comes of a message arms timers with the delays of their types. -/
theorem timerCalls (origin : Node) :
    NodeInvariant (Node.Adds (TimerCall timeout) origin) fun _ => True where
  acceptor node message adds _ := by
    refine adds.trans ((PaxAcceptor.handleMessage_adds node message).mono fun call made => ?_)
    cases call with
    | addEvent | removeEvent => exact made.elim
    | _ => trivial
  learner node message adds _ :=
    adds.trans ((PaxLearner.handleMessage_asks node message).mono
      PaxLearner.AskingCall.timerCall)
  promise node message adds _ passes := adds.trans (handleProposeAck_timerCalls node message passes)
  counted node message adds _ _ :=
    adds.trans ⟨_, rfl, relaunch_timerCalls _ _ .acceptTimeout _ message rfl (by decide)⟩
  majority node message adds _ _ := ⟨adds.trans (Node.adds_of_eq rfl), trivial⟩
  finish node adds := by
    refine adds.trans ((PaxController.finish_adds node).mono fun call member => ?_)
    have final : call ∈ [_, _, _, _] := member
    simp only [List.mem_cons, List.not_mem_nil, or_false] at final
    rcases final with rfl | rfl | rfl | rfl
    · trivial
    · trivial
    · exact nofun
    · exact nofun

/-- The calls of a new value. -/
theorem newValue_timerCalls (node : Node) (flushed : Option LogValue) :
    Node.Adds (TimerCall timeout) node (PaxProposer.newValue node flushed timeout) := by
  cases flushed with
  | none => exact Node.adds_of_eq rfl
  | some value =>
    have flush : Node.Adds (TimerCall timeout) node (node.record (.flush node.instanceId value)) :=
      Node.adds_record _ _ trivial
    have timer (before : Node) : Node.Adds (TimerCall timeout) before
        (before.publish .newValueTimeout .newValueTimeoutCallback timeout) :=
      Node.adds_record _ _ ⟨rfl, nofun⟩
    exact flush.trans ((timer (PaxProposer.withProposer _ _)).trans (propose_timerCalls _))

variable (timeout) in
/-- The calls of a timer. -/
theorem fire_timerCalls (node : Node) (free : node.blocked = false) (callback : TimerCallback) :
    Node.Adds (TimerCall timeout) node (callback.fire node) := by
  cases callback with
  | proposeTimeoutCallback instanceId =>
    simp only [TimerCallback.fire, PaxProposer.proposeTimeoutCallback]
    split
    · exact Node.adds_of_eq rfl
    · exact propose_timerCalls node
  | newValueTimeoutCallback =>
    simp only [TimerCallback.fire, PaxProposer.newValueTimeoutCallback]
    split
    · exact Node.adds_of_eq rfl
    · refine ⟨[.removeEvent .proposeTimeout, .removeEvent .acceptTimeout,
        .writeResult [] node.instanceId .valueTimeout], ?_, ?_⟩
      · simp [Node.withdraw, Node.record, PaxProposer.withProposer]
      · simp [TimerCall]
  | shallLearn =>
    rw [TimerCallback.fire]
    cases held : node.learner.mutexFollow with
    | false =>
      rw [PaxLearner.shallLearn_free node free held]
      exact ⟨_, rfl, by simp [TimerCall, delayOf]⟩
    | true =>
      rw [PaxLearner.shallLearn_held node held]
      exact ⟨_, rfl, by simp [TimerCall, delayOf]⟩

end TimerCalls

/-! ## The scheduler keeps to the events it has -/

namespace Timers.Sound

variable {τ β : Type} [DecidableEq τ] {heap : EventHeap τ β} {timers : Timers τ β} {now : Int}

/-- What `Dispatch` returns and what it leaves was in the heap. -/
theorem dispatch_kept (sound : timers.Sound) {found : Option (Event τ β)}
    {after : Scheduler τ β} (returned : timers.scheduler.dispatch heap now = (found, after)) :
    (∀ event ∈ found, event ∈ timers.scheduler.eventQueue.events) ∧
      ∀ event ∈ after.eventQueue.events, event ∈ timers.scheduler.eventQueue.events := by
  rcases sound.early_or_due now with ⟨first, rest, events, early⟩ | due
  · rw [dispatch_early events early] at returned
    obtain ⟨rfl, rfl⟩ := Prod.mk.inj returned
    exact ⟨nofun, fun _ member => member⟩
  · rcases sound.dispatch_due heap due with ⟨left, nothing, events, -⟩ | ⟨event, left, some, finds⟩
    · rw [nothing] at returned
      obtain ⟨rfl, rfl⟩ := Prod.mk.inj returned
      rw [events]
      exact ⟨nofun, nofun⟩
    · rw [some] at returned
      obtain ⟨rfl, rfl⟩ := Prod.mk.inj returned
      refine ⟨fun other same => ?_, finds.kept⟩
      rw [← Option.mem_some.mp same]
      exact ((sound.armed _ _).mp finds.armed).1

/-- What the loop of `NextEventTime` leaves was in the heap. -/
theorem nextLoop_kept (sound : timers.Sound) {count : Nat} {when : Int} {after : Scheduler τ β}
    (found : timers.scheduler.nextLoop heap count = some (when, after)) :
    ∀ event ∈ after.eventQueue.events, event ∈ timers.scheduler.eventQueue.events := by
  induction count generalizing timers with
  | zero => cases found
  | succ count ih =>
    cases events : timers.scheduler.eventQueue.events with
    | nil =>
      rw [Scheduler.nextLoop, EventQueue.next, events] at found
      cases found
    | cons first rest =>
      have front : timers.scheduler.eventQueue.next = some first := by
        rw [EventQueue.next, events]
        rfl
      have notes := timers.scheduler.idOf_sameNotes first.eventType
      have sound' := sound.sameNotes notes
      have queue : (timers.scheduler.idOf first.eventType).2.eventQueue.events = first :: rest := by
        rw [notes.queue, events]
      rw [Scheduler.nextLoop, front, Option.bind_eq_bind, Option.bind_some] at found
      dsimp only at found
      split at found
      · rename_i stale
        obtain ⟨left, popped, perm, ordered⟩ := EventQueue.popOne_first heap sound'.heap queue
        dsimp only at popped
        rw [popped, Option.bind_eq_bind, Option.bind_some] at found
        have positive : 0 < first.eventId := sound.positive first (by rw [events]; simp)
        have unarmed : timers.armed first.eventType ≠ some first := fun armed => stale
          ((timers.scheduler.idOf_iff first.eventType positive).mpr
            ((sound.armed_first events).mp armed))
        intro event member
        have within := ih (sound'.skip queue perm ordered unarmed) found event member
        exact List.mem_cons_of_mem _ (perm.subset within)
      · obtain ⟨-, rfl⟩ := Prod.mk.inj (Option.some.inj found)
        rw [queue]
        exact fun _ member => member

/-- What `NextEventTime` leaves was in the heap. -/
theorem nextEventTime_kept (sound : timers.Sound) {when : Option Int} {after : Scheduler τ β}
    (found : timers.scheduler.nextEventTime heap = some (when, after)) :
    ∀ event ∈ after.eventQueue.events, event ∈ timers.scheduler.eventQueue.events := by
  rw [Scheduler.nextEventTime] at found
  split at found
  · obtain ⟨-, rfl⟩ := Prod.mk.inj (Option.some.inj found)
    exact fun _ member => member
  · obtain ⟨⟨when', after'⟩, looked, same⟩ := Option.map_eq_some_iff.mp found
    obtain ⟨-, rfl⟩ := Prod.mk.inj same
    exact sound.nextLoop_kept looked

end Timers.Sound

namespace Process

open PaxLearner in
/-- The longest delay of a timer. -/
def longestDelay (process : Process) : Int :=
  max (publishDelay shallLearnDelay) (publishDelay process.newValueTimeout)

/-- No type of timer has a longer delay. -/
theorem publishDelay_le_longest (process : Process) (eventType : EventType) :
    publishDelay (delayOf process.newValueTimeout eventType) ≤ process.longestDelay := by
  have short : publishDelay PaxProposer.proposeTimeout ≤ publishDelay PaxLearner.shallLearnDelay :=
    by decide
  cases eventType with
  | proposeTimeout => exact short.trans (le_max_left _ _)
  | acceptTimeout => exact short.trans (le_max_left _ _)
  | newValueTimeout => exact le_max_right _ _
  | shallILearn => exact le_max_left _ _

/-- The scheduler of a process with the timers that are armed in it: each is due after the delay of
its type at the latest, and that of the question asks it. -/
structure Keeps (process : Process) (timers : Timers EventType TimerCallback) : Prop where
  /-- The scheduler is that of the process. -/
  scheduler : timers.scheduler = process.scheduler
  /-- The heap holds the armed timers. -/
  sound : timers.Sound
  /-- No timer is armed for longer than its delay. -/
  bounded : ∀ eventType event, timers.armed eventType = some event →
    event.when ≤ process.clock + publishDelay (delayOf process.newValueTimeout eventType)
  /-- The timer of the question has the question as its callback. -/
  asks : ∀ event, timers.armed .shallILearn = some event → event.callback = .shallLearn

/-- The timer of the question is armed. -/
def Asked (timers : Timers EventType TimerCallback) : Prop := timers.armed .shallILearn ≠ none

variable (heap : EventHeap EventType TimerCallback) {process : Process}
  {timers : Timers EventType TimerCallback}

/-- Time passes, and anything but the scheduler and the timeout may change. -/
theorem Keeps.later {after : Process} (keeps : process.Keeps timers)
    (scheduler : after.scheduler = process.scheduler)
    (newValueTimeout : after.newValueTimeout = process.newValueTimeout)
    (clock : process.clock ≤ after.clock) : after.Keeps timers := by
  refine ⟨keeps.scheduler.trans scheduler.symm, keeps.sound, ?_, keeps.asks⟩
  intro eventType event armed
  have bound := keeps.bounded eventType event armed
  rw [newValueTimeout]
  omega

/-- Time passes. -/
theorem Keeps.tick (keeps : process.Keeps timers) (elapsed : Nat) :
    (process.tick elapsed).Keeps timers := by
  have clock : process.clock ≤ (process.tick elapsed).clock :=
    Int.le_add_of_nonneg_right (Int.natCast_nonneg _)
  exact keeps.later rfl rfl clock

/-- A call arms its timer, or removes it. -/
theorem Keeps.makeCall (keeps : process.Keeps timers) {call : Call}
    (timed : TimerCall process.newValueTimeout call) :
    ∃ timers', (process.makeCall heap call).Keeps timers' ∧
      (Asked timers ∨ (∃ callback delay, call = .addEvent .shallILearn callback delay) →
        Asked timers') := by
  obtain ⟨same, sound, bounded, asks⟩ := keeps
  cases call with
  | addEvent eventType callback delay =>
    obtain ⟨rfl, question⟩ := timed
    let when := process.clock + publishDelay (delayOf process.newValueTimeout eventType)
    have sound' := sound.addEvent
      (rfl : timers.step heap (.addEvent callback when eventType) = some _)
    refine ⟨_, ⟨?_, sound', ?_, ?_⟩, ?_⟩
    · show timers.scheduler.addEvent heap callback when eventType =
        process.scheduler.addEvent heap callback when eventType
      rw [same]
    · intro other event armed
      dsimp only at armed
      by_cases here : other = eventType
      · subst here
        rw [Function.update_self] at armed
        rw [← Option.some.inj armed]
        exact le_rfl
      · rw [Function.update_of_ne here] at armed
        exact bounded other event armed
    · intro event armed
      dsimp only at armed
      by_cases here : EventType.shallILearn = eventType
      · subst here
        rw [Function.update_self] at armed
        rw [← Option.some.inj armed]
        exact question rfl
      · rw [Function.update_of_ne here] at armed
        exact asks event armed
    · intro asked
      show Function.update timers.armed eventType _ .shallILearn ≠ none
      by_cases here : EventType.shallILearn = eventType
      · subst here
        rw [Function.update_self]
        exact Option.some_ne_none _
      · rw [Function.update_of_ne here]
        rcases asked with before | ⟨_, _, added⟩
        · exact before
        · exact absurd (Call.addEvent.inj added).1.symm here
  | removeEvent eventType =>
    have sound' := sound.remove (rfl : timers.step heap (.remove eventType) = some _)
    have kept : Function.update timers.armed eventType none .shallILearn =
        timers.armed .shallILearn := Function.update_of_ne (Ne.symm timed) ..
    refine ⟨_, ⟨?_, sound', ?_, ?_⟩, ?_⟩
    · simp only [Process.makeCall, same]
    · intro other event armed
      dsimp only at armed
      by_cases here : other = eventType
      · rw [here, Function.update_self] at armed
        cases armed
      · rw [Function.update_of_ne here] at armed
        exact bounded other event armed
    · intro event armed
      exact asks event (kept.symm.trans armed)
    · rintro (before | ⟨_, _, added⟩)
      · show Function.update timers.armed eventType none .shallILearn ≠ none
        rw [kept]
        exact before
      · cases added
  | _ =>
    refine ⟨timers, ⟨same, sound, bounded, asks⟩, ?_⟩
    rintro (before | ⟨_, _, added⟩)
    · exact before
    · cases added

/-- A call changes the scheduler and the provider at most. -/
theorem makeCall_eq (process : Process) (call : Call) :
    ∃ scheduler prov, process.makeCall heap call = { process with scheduler, prov } := by
  cases call with
  | _ => exact ⟨_, _, rfl⟩

/-- Calls change the scheduler, the provider and the clock at most. -/
theorem makeCalls_eq (process : Process) (elapsed : List Nat) (calls : List Call) :
    ∃ scheduler prov clock, process.clock ≤ clock ∧
      makeCalls heap process elapsed calls = { process with scheduler, prov, clock } := by
  induction calls generalizing process elapsed with
  | nil => exact ⟨_, _, _, le_rfl, rfl⟩
  | cons call calls ih =>
    obtain ⟨scheduler, prov, made⟩ := makeCall_eq heap (process.tick (elapsed.headD 0)) call
    obtain ⟨scheduler', prov', clock, later, made'⟩ :=
      ih ((process.tick (elapsed.headD 0)).makeCall heap call) elapsed.tail
    have ticked : process.clock ≤ (process.tick (elapsed.headD 0)).clock :=
      Int.le_add_of_nonneg_right (Int.natCast_nonneg _)
    rw [made] at made' later
    refine ⟨scheduler', prov', clock, ticked.trans later, ?_⟩
    rw [makeCalls, made, made']
    rfl

/-- A step of the players changes the scheduler, the provider and the clock beside the node. -/
theorem perform_eq (process : Process) (step : Node → Node) (elapsed : List Nat) :
    ∃ scheduler prov clock, process.clock ≤ clock ∧
      process.perform heap step elapsed =
        { process with node := step process.node, scheduler, prov, clock } :=
  makeCalls_eq heap { process with node := step process.node } elapsed _

/-- Calls keep the timers, and the question is armed after them if it was before or one of them
arms it. -/
theorem Keeps.makeCalls (keeps : process.Keeps timers) (elapsed : List Nat) {calls : List Call}
    (timed : ∀ call ∈ calls, TimerCall process.newValueTimeout call) :
    ∃ timers', (Process.makeCalls heap process elapsed calls).Keeps timers' ∧
      (Asked timers ∨ (∃ callback delay, .addEvent .shallILearn callback delay ∈ calls) →
        Asked timers') := by
  induction calls generalizing process elapsed timers with
  | nil =>
    refine ⟨timers, keeps, ?_⟩
    rintro (before | ⟨_, _, member⟩)
    · exact before
    · exact absurd member List.not_mem_nil
  | cons call calls ih =>
    obtain ⟨middle, keeps', asked⟩ := (keeps.tick (elapsed.headD 0)).makeCall heap
      (timed call List.mem_cons_self)
    obtain ⟨scheduler, prov, made⟩ := makeCall_eq heap (process.tick (elapsed.headD 0)) call
    obtain ⟨timers', keeps'', asked'⟩ := ih keeps' elapsed.tail fun other member => by
      rw [made]
      exact timed other (List.mem_cons_of_mem _ member)
    refine ⟨timers', keeps'', ?_⟩
    rintro (before | ⟨callback, delay, member⟩)
    · exact asked' (.inl (asked (.inl before)))
    · rcases List.mem_cons.mp member with here | later
      · exact asked' (.inl (asked (.inr ⟨callback, delay, here.symm⟩)))
      · exact asked' (.inr ⟨callback, delay, later⟩)

/-- An event of the question waits in a scheduler. -/
def HasQuestion (scheduler : Scheduler EventType TimerCallback) : Prop :=
  ∃ event ∈ scheduler.eventQueue.events, event.eventType = .shallILearn

/-- The question has been published: `Init` has returned, or an event of it waits. -/
def Published (process : Process) : Prop :=
  process.initPoint = .returned ∨ HasQuestion process.scheduler

/-- Calls leave an event of the question where there was one, or where one of them arms it. -/
theorem hasQuestion_makeCalls (process : Process) (elapsed : List Nat) (calls : List Call)
    (has : HasQuestion (process.makeCalls heap elapsed calls).scheduler) :
    HasQuestion process.scheduler ∨
      ∃ callback delay, .addEvent .shallILearn callback delay ∈ calls := by
  induction calls generalizing process elapsed with
  | nil => exact .inl has
  | cons call calls ih =>
    rcases ih _ elapsed.tail has with ⟨event, member, kind⟩ | ⟨callback, delay, later⟩
    · cases call with
      | addEvent eventType callback delay =>
        rcases List.mem_append.mp ((heap.pushHeap_perm _).subset member) with old | new
        · exact .inl ⟨event, old, kind⟩
        · rw [List.mem_singleton.mp new] at kind
          obtain rfl : eventType = .shallILearn := kind
          exact .inr ⟨callback, delay, List.mem_cons_self⟩
      | _ => exact .inl ⟨event, member, kind⟩
    · exact .inr ⟨callback, delay, List.mem_cons_of_mem _ later⟩

/-- A process whose timers are kept. Where the main thread is not blocked, the timer of the question
is armed once it has been published, and where it waits for a message it does not wait longer than
the longest delay. -/
structure Tended (process : Process) : Prop where
  /-- The timers. -/
  timers : ∃ timers, process.Keeps timers ∧
    (process.node.blocked = false → process.Published → Asked timers)
  /-- The wait for a message. -/
  wait : ∀ deadline, process.point = .take deadline →
    deadline ≤ process.clock + process.longestDelay

/-- A step of the players whose calls arm timers with their delays keeps the timers. -/
theorem Keeps.perform (keeps : process.Keeps timers) (step : Node → Node) (elapsed : List Nat)
    {later : List Call} (appended : (step process.node).calls = process.node.calls ++ later)
    (timed : ∀ call ∈ later, TimerCall process.newValueTimeout call) :
    ∃ timers', (process.perform heap step elapsed).Keeps timers' ∧
      (Asked timers ∨ (∃ callback delay, .addEvent .shallILearn callback delay ∈ later) →
        Asked timers') := by
  rw [Process.perform, Node.callsSince_of_append appended]
  have moved : Keeps { process with node := step process.node } timers :=
    keeps.later rfl rfl le_rfl
  exact moved.makeCalls heap elapsed timed

/-- A step of the players leaves the place of the loop. -/
theorem perform_point (process : Process) (step : Node → Node) (elapsed : List Nat) :
    (process.perform heap step elapsed).point = process.point := by
  obtain ⟨scheduler, prov, clock, -, made⟩ := perform_eq heap process step elapsed
  rw [made]

/-- A step of the players leaves the place of `Init`. -/
theorem perform_initPoint (process : Process) (step : Node → Node) (elapsed : List Nat) :
    (process.perform heap step elapsed).initPoint = process.initPoint := by
  obtain ⟨scheduler, prov, clock, -, made⟩ := perform_eq heap process step elapsed
  rw [made]

/-- A step of the players publishes the question if one of its calls arms the timer. -/
theorem published_perform (process : Process) (step : Node → Node) (elapsed : List Nat)
    {later : List Call} (appended : (step process.node).calls = process.node.calls ++ later)
    (published : (process.perform heap step elapsed).Published) :
    process.Published ∨ ∃ callback delay, .addEvent .shallILearn callback delay ∈ later := by
  rcases published with returned | has
  · rw [perform_initPoint] at returned
    exact .inl (.inl returned)
  · rw [Process.perform, Node.callsSince_of_append appended] at has
    exact (hasQuestion_makeCalls heap _ elapsed later has).imp_left .inr

/-- A process in which a timer of the question is armed if it has been published and which is not in
a wait, after a step of the players that arms timers with their delays. -/
theorem Keeps.tended (keeps : process.Keeps timers) (asked : process.Published → Asked timers)
    (step : Node → Node) (elapsed : List Nat)
    (moving : ∀ deadline, process.point ≠ .take deadline)
    (adds : Node.Adds (TimerCall process.newValueTimeout) process.node (step process.node)) :
    (process.perform heap step elapsed).Tended := by
  obtain ⟨later, appended, timed⟩ := adds
  obtain ⟨timers', keeps', asked'⟩ := keeps.perform heap step elapsed appended timed
  refine ⟨⟨timers', keeps', fun _ published => asked' ?_⟩, fun deadline at' => ?_⟩
  · exact (published_perform heap process step elapsed appended published).imp_left asked
  · rw [perform_point heap process step elapsed] at at'
    exact absurd at' (moving deadline)

/-- Asking arms the timer of the question, whether or not it blocks the thread. -/
theorem shallLearn_arms (node : Node) (free : node.blocked = false) :
    ∃ later, (PaxLearner.shallLearn node).calls = node.calls ++ later ∧
      .addEvent .shallILearn .shallLearn PaxLearner.shallLearnDelay ∈ later := by
  cases held : node.learner.mutexFollow with
  | false =>
    rw [PaxLearner.shallLearn_free node free held]
    exact ⟨_, rfl, List.mem_cons_self⟩
  | true =>
    rw [PaxLearner.shallLearn_held node held]
    exact ⟨_, rfl, List.mem_cons_self⟩

/-- What `Dispatch` returns is called. -/
theorem Keeps.dispatched (keeps : process.Keeps timers) (asked : process.Published → Asked timers)
    (free : process.node.blocked = false) (moving : ∀ deadline, process.point ≠ .take deadline)
    (elapsed : List Nat) {event : Event EventType TimerCallback}
    {scheduler : Scheduler EventType TimerCallback}
    (returned : process.scheduler.dispatch heap process.clock = (some event, scheduler)) :
    (Process.perform heap { process with scheduler } event.callback.fire elapsed).Tended := by
  rw [← keeps.scheduler] at returned
  obtain ⟨finds, -⟩ := keeps.sound.dispatch_finds returned
  have armed (eventType : EventType) (other : eventType ≠ event.eventType) :
      (timers.fire event scheduler).armed eventType = timers.armed eventType :=
    Function.update_of_ne other ..
  have gone : (timers.fire event scheduler).armed event.eventType = none :=
    Function.update_self ..
  have keeps' : Keeps { process with scheduler } (timers.fire event scheduler) := by
    refine ⟨rfl, finds.sound, ?_, ?_⟩
    · intro eventType other live
      by_cases same : eventType = event.eventType
      · rw [same, gone] at live
        cases live
      · exact keeps.bounded eventType other ((armed eventType same).symm.trans live)
    · intro other live
      by_cases same : EventType.shallILearn = event.eventType
      · rw [same, gone] at live
        cases live
      · exact keeps.asks other ((armed _ same).symm.trans live)
  have timed := fire_timerCalls process.newValueTimeout process.node free event.callback
  by_cases question : event.eventType = .shallILearn
  · have live := finds.armed
    rw [question] at live
    have callback := keeps.asks event live
    obtain ⟨later, appended, fine⟩ := timed
    obtain ⟨later', appended', member⟩ := shallLearn_arms process.node free
    have same : later' = later := by
      rw [callback] at appended
      exact List.append_cancel_left (appended'.symm.trans appended)
    obtain ⟨timers', keeps'', asked'⟩ := keeps'.perform heap event.callback.fire elapsed appended fine
    refine ⟨⟨timers', keeps'', fun _ _ => asked' (.inr ⟨_, _, same ▸ member⟩)⟩, ?_⟩
    intro deadline waits
    rw [perform_point heap { process with scheduler } event.callback.fire elapsed] at waits
    exact absurd waits (moving deadline)
  · refine keeps'.tended heap (fun published => ?_) event.callback.fire elapsed moving timed
    rw [Asked, armed _ (Ne.symm question)]
    refine asked (published.imp_right ?_)
    rintro ⟨other, member, kind⟩
    exact ⟨other, keeps.scheduler ▸ finds.kept other member, kind⟩

/-- `NextEventTime` finds an empty heap or the time of a timer, unless none is armed. -/
theorem Keeps.next (keeps : process.Keeps timers) :
    process.scheduler.nextEventTime heap = some (none, process.scheduler) ∨
      (process.scheduler.nextEventTime heap = none ∧
        process.scheduler.eventQueue.events ≠ [] ∧ ¬ Asked timers) ∨
      ∃ when scheduler, process.scheduler.nextEventTime heap = some (some when, scheduler) ∧
        when ≤ process.clock + process.longestDelay ∧
        Keeps { process with scheduler } { timers with scheduler } ∧
        (HasQuestion scheduler → HasQuestion process.scheduler) := by
  rw [← keeps.scheduler]
  rcases keeps.sound.nextEventTime heap with ⟨-, idle⟩ | ⟨waits, ⟨broken, nothing⟩ | found⟩
  · exact .inl idle
  · exact .inr (.inl ⟨broken, waits, fun asked => asked (nothing .shallILearn)⟩)
  · obtain ⟨event, after, found, live, -, -, sound⟩ := found
    refine .inr (.inr ⟨event.when, after, found, ?_, ⟨rfl, sound, keeps.bounded, keeps.asks⟩, ?_⟩)
    · have bound := keeps.bounded _ _ live
      have longest := publishDelay_le_longest process event.eventType
      omega
    · rintro ⟨other, member, kind⟩
      exact ⟨other, keeps.sound.nextEventTime_kept found other member, kind⟩

/-- A wait that is converted to milliseconds is not longer than the longest delay. -/
theorem wait_le {when clock longest : Int} (bound : when ≤ clock + longest)
    (positive : 0 ≤ longest) : (when - clock).tdiv millisecond * millisecond ≤ longest := by
  have parts := Int.tdiv_mul_add_tmod (when - clock) millisecond
  rcases le_total 0 (when - clock) with ahead | past
  · have rest := Int.tmod_nonneg millisecond ahead
    omega
  · have negative : (when - clock).tdiv millisecond ≤ 0 := by
      have flipped := Int.neg_tdiv (when - clock) millisecond
      have up : 0 ≤ (-(when - clock)).tdiv millisecond :=
        Int.tdiv_nonneg (by omega) (by decide)
      omega
    have product : (when - clock).tdiv millisecond * millisecond ≤ 0 :=
      Int.mul_nonpos_of_nonpos_of_nonneg negative (by decide)
    omega

/-- What comes of a step: the timers are kept and `Init` does not come back, or the step is not
defined, which happens only before `Init` has returned. -/
def Continues (process : Process) (outcome : Option Process) : Prop :=
  (∃ after, outcome = some after ∧ after.Tended ∧
    (process.initPoint = .returned → after.initPoint = .returned)) ∨
  (outcome = none ∧ process.initPoint ≠ .returned)

section MainLoop

variable (routing : Routing) (elapsed : List Nat)

/-- The loop that calls `Dispatch` keeps the timers. -/
theorem Keeps.mainLoop_dispatch (keeps : process.Keeps timers)
    (asked : process.Published → Asked timers) (free : process.node.blocked = false)
    (point : process.point = .dispatch) :
    process.Continues (mainLoop heap routing process elapsed) := by
  have moving (deadline : Int) : (process.tick (elapsed.headD 0)).point ≠ .take deadline := by
    show process.point ≠ _
    rw [point]
    exact nofun
  have ticked := keeps.tick (elapsed.headD 0)
  rw [mainLoop, free, if_neg Bool.false_ne_true, point]
  dsimp only
  cases returned : (process.tick (elapsed.headD 0)).scheduler.dispatch heap
      (process.tick (elapsed.headD 0)).clock with
  | mk event scheduler =>
    cases event with
    | none =>
      have returned' := returned
      rw [← ticked.scheduler] at returned'
      have sound := keeps.sound.dispatch_nothing returned'
      have kept := (keeps.sound.dispatch_kept returned').2
      rw [keeps.scheduler] at kept
      refine .inl ⟨_, rfl, ⟨⟨{ timers with scheduler }, ⟨rfl, sound, ticked.bounded, ticked.asks⟩,
        fun _ published => asked (published.imp_right ?_)⟩, nofun⟩, id⟩
      rintro ⟨event, member, kind⟩
      exact ⟨event, kept event member, kind⟩
    | some event =>
      refine .inl ⟨_, rfl, ticked.dispatched heap asked free moving elapsed.tail returned, ?_⟩
      rw [perform_initPoint]
      exact id

/-- The wait that follows `NextEventTime` ends in time. -/
theorem Keeps.mainLoop_nextEventTime (keeps : process.Keeps timers)
    (asked : process.Published → Asked timers) (free : process.node.blocked = false)
    (point : process.point = .nextEventTime) :
    process.Continues (mainLoop heap routing process elapsed) := by
  rw [mainLoop, free, if_neg Bool.false_ne_true, point]
  dsimp only
  have usual : 500 * millisecond ≤ process.longestDelay :=
    (by decide : 500 * millisecond ≤ publishDelay PaxLearner.shallLearnDelay).trans
      (le_max_left _ _)
  rcases keeps.next heap with idle | ⟨broken, -, unarmed⟩ | ⟨when, scheduler, found, bound, next⟩
  · rw [idle]
    have ticked := keeps.tick (elapsed.headD 0)
    refine .inl ⟨_, rfl, ⟨⟨_, ticked.later rfl rfl le_rfl, fun _ => asked⟩, fun deadline waits => ?_⟩,
      id⟩
    rw [← LoopPoint.take.inj waits]
    exact Int.add_le_add_left usual _
  · rw [broken]
    exact .inr ⟨rfl, fun returned => unarmed (asked (.inl returned))⟩
  · obtain ⟨keeps', kept⟩ := next
    rw [found]
    have ticked := (keeps'.tick (elapsed.headD 0)).tick (elapsed.tail.headD 0)
    refine .inl ⟨_, rfl, ⟨⟨_, ticked.later rfl rfl le_rfl, fun _ published =>
      asked (published.imp_right kept)⟩, fun deadline waits => ?_⟩, id⟩
    have positive : 0 ≤ process.longestDelay := (by decide : 0 ≤ 500 * millisecond).trans usual
    have later : when ≤ (process.tick (elapsed.headD 0)).clock + process.longestDelay := by
      show when ≤ process.clock + (elapsed.headD 0 : Nat) + process.longestDelay
      omega
    rw [← LoopPoint.take.inj waits]
    exact Int.add_le_add_left (wait_le later positive) _

/-- Once `Init` has returned all players have their controller. -/
theorem known_of_returned (returned : process.initPoint = .returned) (message : PaxMessage) :
    process.known routing message = true := by
  simp [known, returned, InitPoint.learnerKnows, InitPoint.proposerKnows]

/-- The wait for a message, and the message. -/
theorem Keeps.mainLoop_take (keeps : process.Keeps timers)
    (asked : process.Published → Asked timers) (free : process.node.blocked = false)
    {deadline : Int} (point : process.point = .take deadline)
    (wait : deadline ≤ process.clock + process.longestDelay) :
    process.Continues (mainLoop heap routing process elapsed) := by
  have ticked := keeps.tick (elapsed.headD 0)
  rw [mainLoop, free, if_neg Bool.false_ne_true, point]
  dsimp only
  cases (process.tick (elapsed.headD 0)).msgProv.take with
  | some taken =>
    obtain ⟨message, msgProv⟩ := taken
    dsimp only
    split
    · have moved : Keeps { process.tick (elapsed.headD 0) with msgProv, point := .tryNewValue }
          timers := ticked.later rfl rfl le_rfl
      have kept := timerCalls process.newValueTimeout process.node
      have adds : Node.Adds (TimerCall process.newValueTimeout) process.node
          (PaxController.handleMessage routing process.node message) :=
        kept.handleMessage (Node.adds_of_eq rfl) trivial routing
      refine .inl ⟨_, rfl, moved.tended heap asked _ elapsed.tail nofun adds, ?_⟩
      rw [perform_initPoint]
      exact id
    · rename_i unknown
      exact .inr ⟨rfl, fun returned => unknown (known_of_returned routing returned message)⟩
  | none =>
    dsimp only
    split
    · refine .inl ⟨_, rfl, ⟨⟨timers, ticked, fun _ => asked⟩, fun other waits => ?_⟩, id⟩
      have same : process.point = .take other := waits
      rw [point] at same
      obtain rfl := LoopPoint.take.inj same
      show deadline ≤ process.clock + (elapsed.headD 0 : Nat) + process.longestDelay
      omega
    · exact .inl ⟨_, rfl, ⟨⟨timers, ticked.later rfl rfl le_rfl, fun _ => asked⟩, nofun⟩, id⟩

/-- Asking for a new value keeps the timers. -/
theorem Keeps.tryNewValue (keeps : process.Keeps timers)
    (asked : process.Published → Asked timers)
    (moving : ∀ deadline, process.point ≠ .take deadline) :
    (process.tryNewValue heap elapsed).Tended ∧
      (process.tryNewValue heap elapsed).initPoint = process.initPoint := by
  have idle : process.Tended :=
    ⟨⟨timers, keeps, fun _ => asked⟩, fun deadline waits => absurd waits (moving deadline)⟩
  unfold Process.tryNewValue
  split
  · exact ⟨idle, rfl⟩
  · split
    · exact ⟨idle, rfl⟩
    · obtain ⟨prov, flushed⟩ := process.prov.flush process.node.instanceId
      dsimp only
      have moved : Keeps { process with prov } timers := keeps.later rfl rfl le_rfl
      exact ⟨moved.tended heap asked _ elapsed moving (newValue_timerCalls process.node flushed),
        perform_initPoint heap { process with prov } _ elapsed⟩

/-- **The main loop goes on** once `Init` has returned. It keeps the timers in any case. -/
theorem Tended.mainLoop (tended : process.Tended) :
    process.Continues (Process.mainLoop heap routing process elapsed) := by
  obtain ⟨⟨timers, keeps, asked⟩, wait⟩ := tended
  cases free : process.node.blocked with
  | true =>
    refine .inl ⟨process, ?_, ⟨⟨timers, keeps, asked⟩, wait⟩, id⟩
    rw [Process.mainLoop, free, if_pos rfl]
  | false =>
    have asked := asked free
    cases point : process.point with
    | dispatch => exact keeps.mainLoop_dispatch heap routing elapsed asked free point
    | nextEventTime => exact keeps.mainLoop_nextEventTime heap routing elapsed asked free point
    | take deadline =>
      exact keeps.mainLoop_take heap routing elapsed asked free point (wait deadline point)
    | tryNewValue =>
      rw [Process.mainLoop, free, if_neg Bool.false_ne_true, point]
      dsimp only
      cases knows : process.initPoint.learnerKnows with
      | true =>
        have moved : Keeps { process with point := .dispatch } timers :=
          keeps.later rfl rfl le_rfl
        have tried := moved.tryNewValue heap elapsed asked nofun
        exact .inl ⟨_, rfl, tried.1, fun returned => tried.2.trans returned⟩
      | false =>
        refine .inr ⟨rfl, fun returned => ?_⟩
        rw [returned] at knows
        cases knows

end MainLoop

/-- `Init` goes on. Its last step publishes the question. -/
theorem Tended.init (tended : process.Tended) (elapsed : List Nat) :
    process.Continues (some (Process.init heap process elapsed)) := by
  obtain ⟨⟨timers, keeps, asked⟩, wait⟩ := tended
  have within {after : Process} (scheduler : after.scheduler = process.scheduler)
      (newValueTimeout : after.newValueTimeout = process.newValueTimeout)
      (clock : after.clock = process.clock) (point : after.point = process.point)
      (blocked : after.node.blocked = process.node.blocked)
      (running : after.initPoint ≠ .returned) : after.Tended := by
    refine ⟨⟨timers, keeps.later scheduler newValueTimeout clock.ge, ?_⟩, ?_⟩
    · rintro free (returned | has)
      · exact absurd returned running
      · exact asked (blocked.symm.trans free) (.inr (scheduler ▸ has))
    · intro deadline waits
      rw [longestDelay, newValueTimeout, clock]
      exact wait deadline (point.symm.trans waits)
  unfold Process.init
  cases point : process.initPoint with
  | getAcceptedProposalId =>
    exact .inl ⟨_, rfl, within rfl rfl rfl rfl rfl nofun, fun done => nomatch point.symm.trans done⟩
  | proposerInit proposalId =>
    exact .inl ⟨_, rfl, within rfl rfl rfl rfl rfl nofun, fun done => nomatch point.symm.trans done⟩
  | learnerInit =>
    exact .inl ⟨_, rfl, within rfl rfl rfl rfl rfl nofun, fun done => nomatch point.symm.trans done⟩
  | learnerPublish =>
    have moved : Keeps { process with initPoint := .returned } timers := keeps.later rfl rfl le_rfl
    have question : .addEvent .shallILearn .shallLearn PaxLearner.shallLearnDelay ∈
        [Call.addEvent .shallILearn .shallLearn PaxLearner.shallLearnDelay] := List.mem_cons_self
    obtain ⟨timers', keeps', asked'⟩ := moved.perform heap PaxLearner.init elapsed rfl
      fun call member => by
        rw [List.mem_singleton.mp member]
        exact ⟨rfl, fun _ => rfl⟩
    refine .inl ⟨_, rfl, ⟨⟨timers', keeps', fun _ _ => asked' (.inr ⟨_, _, question⟩)⟩, ?_⟩, ?_⟩
    · obtain ⟨scheduler, prov, clock, later, made⟩ :=
        perform_eq heap { process with initPoint := .returned } PaxLearner.init elapsed
      intro deadline waits
      rw [made] at waits ⊢
      have bound := wait deadline waits
      show deadline ≤ clock + process.longestDelay
      have later' : process.clock ≤ clock := later
      omega
    · rw [perform_initPoint]
      exact fun _ => rfl
  | returned =>
    exact .inl ⟨_, rfl, ⟨⟨timers, keeps, asked⟩, wait⟩, fun _ => point⟩

/-- The sending thread does not block the main thread. -/
theorem sendingStep_blocked (node : Node) (tooSlow : Bool) :
    (PaxLearner.sendingStep node tooSlow).blocked = node.blocked := by
  unfold PaxLearner.sendingStep
  cases node.learner.sendingPoint with
  | call | clear => rfl
  | _ =>
    dsimp only
    repeat' split
    all_goals rfl

/-- What other threads do keeps the timers. -/
theorem Tended.others {after : Process} (tended : process.Tended)
    (scheduler : after.scheduler = process.scheduler)
    (newValueTimeout : after.newValueTimeout = process.newValueTimeout)
    (clock : after.clock = process.clock) (point : after.point = process.point)
    (initPoint : after.initPoint = process.initPoint)
    (blocked : after.node.blocked = process.node.blocked) :
    process.Continues (some after) := by
  obtain ⟨⟨timers, keeps, asked⟩, wait⟩ := tended
  refine .inl ⟨after, rfl, ⟨⟨timers, keeps.later scheduler newValueTimeout clock.ge, ?_⟩, ?_⟩,
    fun returned => initPoint.trans returned⟩
  · intro free published
    rw [Published, initPoint, scheduler] at published
    exact asked (blocked.symm.trans free) published
  · intro deadline waits
    rw [longestDelay, newValueTimeout, clock]
    exact wait deadline (point.symm.trans waits)

/-- Every step of a process keeps the timers, and is defined once `Init` has returned. -/
theorem Tended.step (tended : process.Tended) (routing : Routing) (event : ProcessEvent) :
    process.Continues (Process.step heap routing process event) := by
  cases event with
  | mainLoop elapsed => exact tended.mainLoop heap routing elapsed
  | init elapsed => exact tended.init heap elapsed
  | addMessage message => exact tended.others rfl rfl rfl rfl rfl rfl
  | submitAndWait value =>
    rw [Process.step, Process.submitAndWait]
    split
    · exact tended.others rfl rfl rfl rfl rfl rfl
    · dsimp only
      split
      · exact tended.others rfl rfl rfl rfl rfl rfl
      · exact tended.others rfl rfl rfl rfl rfl rfl
  | wake index =>
    rw [Process.step, Process.wake]
    split
    · exact tended.others rfl rfl rfl rfl rfl rfl
    · exact tended.others rfl rfl rfl rfl rfl rfl
  | sending tooSlow =>
    exact tended.others rfl rfl rfl rfl rfl (sendingStep_blocked process.node tooSlow)

/-- No timer is armed when `PaxController::Init` starts the main loop. -/
theorem tended_launch (process : Process) (prov : ProposalProv) (memory instanceInSM : InstanceId)
    (elapsed : List Nat) : (process.launch heap prov memory instanceInSM elapsed).Tended := by
  obtain ⟨instanceId, executed, same, executes⟩ :=
    PaxController.recover_eq process.node instanceInSM memory
  have start : Keeps
      { node := PaxController.reborn process.node memory
        members := process.members
        newValueTimeout := process.newValueTimeout
        prov
        clock := process.clock } {} := ⟨rfl, Timers.Sound.empty, nofun, nofun⟩
  refine start.tended heap ?_ (PaxController.recover · instanceInSM) elapsed nofun
    ⟨executed, congrArg Node.calls same, fun call member => ?_⟩
  · rintro (returned | ⟨event, member, -⟩)
    · cases returned
    · cases member
  · obtain ⟨_, _, rfl⟩ := executes call member
    trivial

/-- The timers are kept in the state that a step leads to. -/
theorem Tended.next (tended : process.Tended) (routing : Routing) {event : ProcessEvent}
    {after : Process} (stepped : Process.step heap routing process event = some after) :
    after.Tended := by
  rcases tended.step heap routing event with ⟨next, stepped', tended', -⟩ | ⟨undefined, -⟩
  · obtain rfl := Option.some.inj (stepped'.symm.trans stepped)
    exact tended'
  · rw [stepped] at undefined
    cases undefined

/-- The timer of the question is armed in the scheduler: an event of its type waits under the id
that is noted. -/
def QuestionWaits (process : Process) : Prop :=
  ∃ event ∈ process.scheduler.eventQueue.events, event.eventType = .shallILearn ∧
    process.scheduler.eventTypeIdMap .shallILearn = some event.eventId

/-- **The main loop reads no empty vector and wakes in time** once `PaxController::Init` has
returned, whatever the loop has done while it ran. However the steps of the threads of a process
follow each other, whatever messages come and however long everything takes, no call of
`NextEventTime` reads the front of an empty vector; while the main thread is not blocked the timer
of the question is armed; and a wait for a message ends after the longest delay at the latest. -/
theorem main_loop_goes_on (routing : Routing) (process : Process) (prov : ProposalProv)
    (memory instanceInSM : InstanceId) (elapsed : List Nat) (earlier : List ProcessEvent)
    (middle : Process)
    (ran : run heap routing (process.launch heap prov memory instanceInSM elapsed) earlier =
      some middle) (returned : middle.initPoint = .returned) (events : List ProcessEvent) :
    ∃ after, run heap routing middle events = some after ∧
      (after.node.blocked = false → after.QuestionWaits) ∧
      ∀ deadline, after.point = .take deadline → deadline ≤ after.clock + after.longestDelay := by
  have tended : middle.Tended :=
    Runs.reached (fun state event next tended stepped => tended.next heap routing stepped)
      (tended_launch heap process prov memory instanceInSM elapsed) ran
  have keeps (state : Process) (event : ProcessEvent)
      (kept : state.Tended ∧ state.initPoint = .returned) :
      ∃ next, step heap routing state event = some next ∧
        next.Tended ∧ next.initPoint = .returned := by
    rcases kept.1.step heap routing event with ⟨next, stepped, tended, stays⟩ | ⟨-, running⟩
    · exact ⟨next, stepped, tended, stays kept.2⟩
    · exact absurd kept.2 running
  obtain ⟨after, ran', tended, returned'⟩ := Runs.goes_on keeps ⟨tended, returned⟩ events
  refine ⟨after, ran', fun free => ?_, tended.wait⟩
  obtain ⟨timers, keeps, asked⟩ := tended.timers
  obtain ⟨event, armed⟩ := Option.ne_none_iff_exists'.mp (asked free (.inl returned'))
  rw [QuestionWaits, ← keeps.scheduler]
  exact ⟨event, (keeps.sound.armed _ _).mp armed⟩

/-- Timers in descending order of their times. -/
def sortedTimers : EventHeap EventType TimerCallback := Heap.descending Event.when

/-- What the first process of a node is started after: nothing has run. -/
def blankProcess (members : Finset NodeId) : Process :=
  { node := Node.fresh ⟨1, 1 / 2, 1, 0⟩ 0, members, newValueTimeout := 1000, clock := 0,
    prov := { index := 1, finishIndex := 0, limit := 10 } }

/-- The first process, when its main loop has just been started. -/
def firstProcess (members : Finset NodeId) : Process :=
  launch sortedTimers (blankProcess members) { index := 1, finishIndex := 0, limit := 10 } 0 0 []

/-- The main loop comes to its wait while `Init` goes on. -/
def insideInit : List ProcessEvent :=
  [.mainLoop [], .init [], .mainLoop [], .init [], .init [], .init [7]]

/-- A client submits a value then, which the loop flushes after its wait. -/
def afterInit : List ProcessEvent :=
  [.submitAndWait [42], .mainLoop [], .mainLoop [], .mainLoop [], .mainLoop []]

/-- Such a run, in which the node is its only member. -/
theorem main_loop_goes_on_inside : ∃ middle after,
    run sortedTimers .source (firstProcess {1}) insideInit = some middle ∧
      run sortedTimers .source middle afterInit = some after ∧
      (after.node.blocked = false → after.QuestionWaits) ∧
      ∀ deadline, after.point = .take deadline → deadline ≤ after.clock + after.longestDelay := by
  obtain ⟨middle, ran, returned⟩ : ∃ middle,
      run sortedTimers .source (firstProcess {1}) insideInit = some middle ∧
        middle.initPoint = .returned := ⟨_, rfl, rfl⟩
  obtain ⟨after, ran', kept⟩ := main_loop_goes_on sortedTimers .source (blankProcess {1})
    { index := 1, finishIndex := 0, limit := 10 } 0 0 [] insideInit middle ran returned afterInit
  exact ⟨middle, after, ran, ran', kept⟩

end Process

end Paxosme
