import Paxosme.Verif.QuestionTimer

/-!
# Processes without authority

`TryNewValue` asks whether the node is a member, and nothing ever writes the list of members. A
process that is not on it proposes nothing, whatever messages come and whatever clients submit: of
all timers only the question of the learner is ever armed, no promise is asked for, and no value is
taken from the provider. Its scheduler then does what it should, since there is one timer, also
while `PaxController::Init` runs beside the main loop.
-/

namespace Paxosme

/-- A call that proposes nothing. -/
def SilentCall : Call → Prop
  | .addEvent eventType callback _ => eventType = .shallILearn ∧ callback = .shallLearn
  | .broadcast message =>
    message.messageType ≠ .proposeBroadcast ∧ message.messageType ≠ .acceptBroadcast
  | .flush _ _ => False
  | _ => True

/-- A node that has proposed nothing since it started. -/
structure Silent (origin node : Node) : Prop where
  /-- The options are kept. -/
  options : node.options = origin.options
  /-- The proposer is idle. -/
  status : node.proposer.status = .kNone
  /-- No call proposes anything. -/
  adds : Node.Adds SilentCall origin node

section SilentNodes

variable {origin node : Node}

/-- A step of another player. -/
theorem Silent.step {after : Node} (silent : Silent origin node)
    (options : after.options = node.options) (proposer : after.proposer = node.proposer)
    (adds : Node.Adds SilentCall node after) : Silent origin after :=
  ⟨options.trans silent.options, proposer ▸ silent.status, silent.adds.trans adds⟩

/-- A node that has proposed nothing proposes nothing in a step. -/
theorem Silent.trans {after : Node} (before : Silent origin node) (step : Silent node after) :
    Silent origin after :=
  ⟨step.options.trans before.options, step.status, before.adds.trans step.adds⟩

/-- Nothing has been done since now. -/
theorem Silent.refl (silent : Silent origin node) : Silent node node :=
  ⟨rfl, silent.status, Node.adds_of_eq rfl⟩

/-- What the learner does proposes nothing. -/
theorem PaxLearner.AskingCall.silentCall (call : Call) (asking : PaxLearner.AskingCall call) :
    SilentCall call := by
  cases call with
  | addEvent eventType callback delay => exact ⟨asking.1, asking.2.1⟩
  | broadcast message =>
    have kind : message.messageType = .valueChosenBroadcast := asking
    simp [SilentCall, kind]
  | flush => exact asking.elim
  | _ => trivial

/-- An idle proposer discards every acknowledgement. -/
theorem Silent.discards (silent : Silent origin node) (phase : ProposerStatus)
    (working : phase ≠ .kNone) (message : PaxMessage) :
    PaxProposer.Discards phase node message := by
  refine .inl ?_
  rw [silent.status]
  exact working.symm

/-- No message makes an idle proposer propose. -/
theorem silent_kept (origin : Node) : NodeInvariant (Silent origin) fun _ => True where
  acceptor node message silent _ := by
    have frame := PaxAcceptor.handleMessage_frame node message
    refine silent.step (by rw [frame]) (by rw [frame]) ?_
    refine (PaxAcceptor.handleMessage_adds node message).mono fun call made => ?_
    cases call with
    | addEvent | broadcast | flush => exact made.elim
    | _ => trivial
  learner node message silent _ := by
    have same := PaxLearner.besides_handleMessage node message
    simp only [PaxLearner.besides, Prod.mk.injEq] at same
    exact silent.step same.1 same.2.2.1 ((PaxLearner.handleMessage_asks node message).mono
      PaxLearner.AskingCall.silentCall)
  promise node message silent _ passes := absurd (silent.discards .kPropose nofun message) passes
  counted node message silent _ passes := absurd (silent.discards .kAccept nofun message) passes
  majority node message silent _ passes := absurd (silent.discards .kAccept nofun message) passes
  finish node silent := by
    have adds : Node.Adds SilentCall node (PaxController.finish node) := by
      refine (PaxController.finish_adds node).mono fun call member => ?_
      have final : call ∈ [_, _, _, _] := member
      simp only [List.mem_cons, List.not_mem_nil, or_false] at final
      rcases final with rfl | rfl | rfl | rfl
      all_goals trivial
    rcases PaxController.finish_or_cleared node with same | cleared
    · rw [same]
      exact silent
    · refine ⟨?_, cleared, silent.adds.trans adds⟩
      rw [← silent.options]
      unfold PaxController.finish
      split
      · rfl
      · split
        · rfl
        · rfl

/-- The question proposes nothing. -/
theorem Silent.shallLearn (silent : Silent origin node) (free : node.blocked = false) :
    Silent origin (PaxLearner.shallLearn node) := by
  cases held : node.learner.mutexFollow with
  | false =>
    rw [PaxLearner.shallLearn_free node free held]
    exact silent.step rfl rfl ⟨_, rfl, by simp [SilentCall, PaxLearner.shallILearnMessage,
      PaxMessage.new]⟩
  | true =>
    rw [PaxLearner.shallLearn_held node held]
    exact silent.step rfl rfl ⟨_, rfl, by simp [SilentCall]⟩

/-- `PaxProposer::Init` proposes nothing. -/
theorem Silent.proposerInit (silent : Silent origin node) (proposalId : ProposalId) :
    Silent origin (PaxProposer.init node proposalId) :=
  ⟨silent.options, silent.status, silent.adds⟩

/-- `PaxLearner::Init` proposes nothing. -/
theorem Silent.learnerInit (silent : Silent origin node) :
    Silent origin (PaxLearner.init node) :=
  silent.step rfl rfl ⟨_, rfl, by simp [SilentCall]⟩

/-- The sending thread proposes nothing. -/
theorem Silent.sendingStep (silent : Silent origin node) (tooSlow : Bool) :
    Silent origin (PaxLearner.sendingStep node tooSlow) := by
  have same := PaxLearner.besides_sendingStep node tooSlow
  simp only [PaxLearner.besides, Prod.mk.injEq] at same
  refine silent.step same.1 same.2.2.1 ?_
  rcases PaxLearner.sendingStep_calls node tooSlow with none | ⟨_, receiver, message, sent⟩
  · exact Node.adds_of_eq none
  · exact ⟨_, sent.2.2.2.2.1, by simp [SilentCall]⟩

end SilentNodes

namespace Process

variable (heap : EventHeap EventType TimerCallback) {origin : Node} {process after : Process}

/-- The question of the learner is all that waits in a scheduler. -/
def OnlyQuestions (scheduler : Scheduler EventType TimerCallback) : Prop :=
  ∀ event ∈ scheduler.eventQueue.events,
    event.eventType = .shallILearn ∧ event.callback = .shallLearn

/-- A process that is not on its list of members and has proposed nothing. -/
structure Outside (origin : Node) (process : Process) : Prop where
  /-- The node has proposed nothing. -/
  silent : Silent origin process.node
  /-- It is not a member. -/
  outside : origin.getNodeId ∉ process.members
  /-- No timer but the question waits. -/
  questions : OnlyQuestions process.scheduler

/-- Silent calls add no event but the question. -/
theorem OnlyQuestions.makeCalls (questions : OnlyQuestions process.scheduler) (elapsed : List Nat)
    {calls : List Call} (silent : ∀ call ∈ calls, SilentCall call) :
    OnlyQuestions (Process.makeCalls heap process elapsed calls).scheduler := by
  induction calls generalizing process elapsed with
  | nil => exact questions
  | cons call calls ih =>
    refine ih ?_ elapsed.tail fun other member => silent other (List.mem_cons_of_mem _ member)
    have fine := silent call List.mem_cons_self
    cases call with
    | addEvent eventType callback delay =>
      intro event member
      rcases List.mem_append.mp ((heap.pushHeap_perm _).subset member) with old | new
      · exact questions event old
      · rw [List.mem_singleton.mp new]
        exact fine
    | _ => exact questions

/-- A silent step of the players. -/
theorem Outside.perform (outside : Outside origin process) (step : Node → Node)
    (elapsed : List Nat) (silent : Silent process.node (step process.node)) :
    Outside origin (process.perform heap step elapsed) := by
  obtain ⟨_, _, _, -, made⟩ := perform_eq heap process step elapsed
  refine ⟨?_, ?_, ?_⟩
  · rw [made]
    exact outside.silent.trans silent
  · rw [made]
    exact outside.outside
  · have questions : OnlyQuestions { process with node := step process.node }.scheduler :=
      outside.questions
    exact questions.makeCalls heap elapsed silent.adds.callsSince

/-- The node stays, and no event is added. -/
theorem Outside.rest (outside : Outside origin process) (node : after.node = process.node)
    (members : after.members = process.members)
    (kept : ∀ event ∈ after.scheduler.eventQueue.events,
      event ∈ process.scheduler.eventQueue.events) : Outside origin after := by
  refine ⟨node ▸ outside.silent, members ▸ outside.outside, fun event member => ?_⟩
  exact outside.questions event (kept event member)

/-- The main thread proposes nothing. -/
theorem Outside.mainLoop (outside : Outside origin process) (tended : process.Tended)
    (routing : Routing) (elapsed : List Nat)
    (stepped : Process.mainLoop heap routing process elapsed = some after) :
    Outside origin after := by
  obtain ⟨timers, keeps, -⟩ := tended.timers
  have idle := outside.silent.refl
  cases free : process.node.blocked with
  | true =>
    rw [Process.mainLoop, free, if_pos rfl] at stepped
    obtain rfl := Option.some.inj stepped
    exact outside
  | false =>
    rw [Process.mainLoop, free, if_neg Bool.false_ne_true] at stepped
    cases point : process.point with
    | dispatch =>
      rw [point] at stepped
      dsimp only at stepped
      cases returned : (process.tick (elapsed.headD 0)).scheduler.dispatch heap
          (process.tick (elapsed.headD 0)).clock with
      | mk found scheduler =>
        rw [returned] at stepped
        have returned' := returned
        rw [← (keeps.tick (elapsed.headD 0)).scheduler] at returned'
        obtain ⟨from_heap, kept⟩ := keeps.sound.dispatch_kept returned'
        rw [keeps.scheduler] at from_heap kept
        cases found with
        | none =>
          obtain rfl := Option.some.inj stepped
          exact outside.rest rfl rfl kept
        | some event =>
          obtain rfl := Option.some.inj stepped
          have callback := (outside.questions event (from_heap event rfl)).2
          have moved : Outside origin { process.tick (elapsed.headD 0) with scheduler } :=
            outside.rest rfl rfl kept
          refine moved.perform heap _ elapsed.tail ?_
          rw [callback]
          exact idle.shallLearn free
    | nextEventTime =>
      rw [point] at stepped
      dsimp only at stepped
      cases found : process.scheduler.nextEventTime heap with
      | none =>
        rw [found] at stepped
        cases stepped
      | some next =>
        obtain ⟨when, scheduler⟩ := next
        have found' := found
        rw [← keeps.scheduler] at found'
        have kept := keeps.sound.nextEventTime_kept found'
        rw [keeps.scheduler] at kept
        rw [found] at stepped
        cases when with
        | none =>
          obtain rfl := Option.some.inj stepped
          exact outside.rest rfl rfl kept
        | some when =>
          obtain rfl := Option.some.inj stepped
          exact outside.rest rfl rfl kept
    | take deadline =>
      rw [point] at stepped
      dsimp only at stepped
      split at stepped
      · rename_i message msgProv _
        split at stepped
        · obtain rfl := Option.some.inj stepped
          have moved : Outside origin
              { process.tick (elapsed.headD 0) with msgProv, point := .tryNewValue } :=
            outside.rest rfl rfl fun _ member => member
          exact moved.perform heap _ elapsed.tail
            ((silent_kept process.node).handleMessage idle trivial routing)
        · cases stepped
      · split at stepped
        · obtain rfl := Option.some.inj stepped
          exact outside.rest rfl rfl fun _ member => member
        · obtain rfl := Option.some.inj stepped
          exact outside.rest rfl rfl fun _ member => member
    | tryNewValue =>
      rw [point] at stepped
      dsimp only at stepped
      split at stepped
      case isFalse => cases stepped
      obtain rfl := Option.some.inj stepped
      have denied : proposingAuthority { process with point := .dispatch } = false := by
        have same : process.node.getNodeId = origin.getNodeId :=
          congrArg PaxosOptions.nodeId outside.silent.options
        rw [proposingAuthority, same]
        exact decide_eq_false outside.outside
      have stays : Process.tryNewValue heap { process with point := .dispatch } elapsed =
          { process with point := .dispatch } := by
        rw [Process.tryNewValue, denied]
        exact ite_self _
      rw [stays]
      exact outside.rest rfl rfl fun _ member => member

/-- `Init` proposes nothing. -/
theorem Outside.init (outside : Outside origin process) (elapsed : List Nat) :
    Outside origin (process.init heap elapsed) := by
  have idle := outside.silent.refl
  unfold Process.init
  split
  · exact outside.rest rfl rfl fun _ member => member
  · rename_i proposalId _
    exact ⟨outside.silent.proposerInit proposalId, outside.outside, outside.questions⟩
  · exact outside.rest rfl rfl fun _ member => member
  · have moved : Outside origin { process with initPoint := .returned } :=
      outside.rest rfl rfl fun _ member => member
    exact moved.perform heap PaxLearner.init elapsed idle.learnerInit
  · exact outside

/-- No step makes a process propose that may not. -/
theorem Outside.step (outside : Outside origin process) (tended : process.Tended)
    (routing : Routing) (event : ProcessEvent)
    (stepped : Process.step heap routing process event = some after) : Outside origin after := by
  cases event with
  | mainLoop elapsed => exact outside.mainLoop heap tended routing elapsed stepped
  | init elapsed =>
    obtain rfl := Option.some.inj stepped
    exact outside.init heap elapsed
  | addMessage message =>
    obtain rfl := Option.some.inj stepped
    exact outside.rest rfl rfl fun _ member => member
  | submitAndWait value =>
    obtain rfl := Option.some.inj stepped
    unfold Process.submitAndWait
    split
    · exact outside.rest rfl rfl fun _ member => member
    · dsimp only
      split
      · exact outside.rest rfl rfl fun _ member => member
      · exact outside.rest rfl rfl fun _ member => member
  | wake index =>
    obtain rfl := Option.some.inj stepped
    unfold Process.wake
    split
    · exact outside.rest rfl rfl fun _ member => member
    · exact outside
  | sending tooSlow =>
    obtain rfl := Option.some.inj stepped
    exact ⟨outside.silent.sendingStep tooSlow, outside.outside, outside.questions⟩

/-- A process whose main loop has just been started has proposed nothing. -/
theorem outside_launch (process : Process) (prov : ProposalProv) (memory instanceInSM : InstanceId)
    (elapsed : List Nat) (outsider : process.node.getNodeId ∉ process.members) :
    Outside (PaxController.reborn process.node memory)
      (process.launch heap prov memory instanceInSM elapsed) := by
  obtain ⟨_, executed, same, executes⟩ :=
    PaxController.recover_eq process.node instanceInSM memory
  have started : Silent (PaxController.reborn process.node memory)
      (PaxController.recover (PaxController.reborn process.node memory) instanceInSM) := by
    rw [same]
    refine ⟨rfl, rfl, executed, rfl, fun call member => ?_⟩
    obtain ⟨_, _, rfl⟩ := executes call member
    trivial
  have unstarted : Outside (PaxController.reborn process.node memory)
      { node := PaxController.reborn process.node memory
        members := process.members
        newValueTimeout := process.newValueTimeout
        prov
        clock := process.clock } :=
    ⟨⟨rfl, rfl, Node.adds_of_eq rfl⟩, outsider, nofun⟩
  exact unstarted.perform heap (PaxController.recover · instanceInSM) elapsed started

/-- The question is the one timer that is armed, and `NextEventTime` finds its time. -/
def QuestionAlone (process : Process) : Prop :=
  ∃ question ∈ process.scheduler.eventQueue.events,
    question.eventType = .shallILearn ∧
    (∀ event ∈ process.scheduler.eventQueue.events,
      process.scheduler.eventTypeIdMap event.eventType = some event.eventId ↔ event = question) ∧
    ∃ scheduler, process.scheduler.nextEventTime heap = some (some question.when, scheduler)

/-- Where only questions wait one is armed, alone. Nothing waits before `Init` has returned at the
earliest. -/
theorem Outside.questionAlone (outside : Outside origin process) (tended : process.Tended)
    (free : process.node.blocked = false) :
    (process.scheduler.eventQueue.events = [] ∧ process.initPoint ≠ .returned) ∨
      process.QuestionAlone heap := by
  obtain ⟨timers, keeps, asked⟩ := tended.timers
  by_cases published : process.Published
  case neg =>
    refine .inl ⟨List.eq_nil_iff_forall_not_mem.mpr fun event member => ?_,
      fun returned => published (.inl returned)⟩
    exact published (.inr ⟨event, member, (outside.questions event member).1⟩)
  obtain ⟨question, armed⟩ := Option.ne_none_iff_exists'.mp (asked free published)
  have questions := outside.questions
  refine .inr ?_
  rw [QuestionAlone]
  rw [← keeps.scheduler] at questions ⊢
  obtain ⟨waits, kind, -⟩ := (keeps.sound.armed _ _).mp armed
  have alone (event : Event EventType TimerCallback)
      (live : timers.armed event.eventType = some event) : event = question := by
    have member := ((keeps.sound.armed _ _).mp live).1
    rw [(questions event member).1, armed] at live
    exact (Option.some.inj live).symm
  refine ⟨question, waits, kind, fun event member => ⟨fun noted => ?_, ?_⟩, ?_⟩
  · exact alone event ((keeps.sound.armed _ _).mpr ⟨member, rfl, noted⟩)
  · rintro rfl
    exact ((keeps.sound.armed _ _).mp (kind ▸ armed)).2.2
  · rcases keeps.sound.nextEventTime heap with ⟨events, -⟩ | ⟨-, ⟨-, nothing⟩ | found⟩
    · rw [events] at waits
      exact absurd waits List.not_mem_nil
    · rw [nothing] at armed
      cases armed
    · obtain ⟨event, scheduler, found, live, -⟩ := found
      rw [alone event live] at found
      exact ⟨scheduler, found⟩

/-- **Without authority nothing is proposed.** In a process whose node is not on its list of
members, which nothing writes, the proposer stays idle and no call asks for a promise or an
acceptance, takes a value from the provider or arms a timer beside the question, whatever messages
come, whatever clients submit and however the threads take turns, `PaxController::Init` among them.
While the main thread is not blocked the question is armed alone, and `NextEventTime` finds its
time; before `Init` has returned there may be no event at all. -/
theorem proposes_nothing_without_authority (routing : Routing) (process : Process)
    (prov : ProposalProv) (memory instanceInSM : InstanceId) (elapsed : List Nat)
    (outsider : process.node.getNodeId ∉ process.members) (events : List ProcessEvent)
    (after : Process)
    (ran : run heap routing (process.launch heap prov memory instanceInSM elapsed) events =
      some after) :
    after.node.proposer.status = .kNone ∧
      (∀ call ∈ Node.callsSince process.node after.node, SilentCall call) ∧
      (after.node.blocked = false →
        (after.scheduler.eventQueue.events = [] ∧ after.initPoint ≠ .returned) ∨
          after.QuestionAlone heap) := by
  have start := And.intro (tended_launch heap process prov memory instanceInSM elapsed)
    (outside_launch heap process prov memory instanceInSM elapsed outsider)
  have keeps (state : Process) (event : ProcessEvent) (next : Process)
      (kept : state.Tended ∧ Outside (PaxController.reborn process.node memory) state)
      (stepped : step heap routing state event = some next) :
      next.Tended ∧ Outside (PaxController.reborn process.node memory) next :=
    ⟨kept.1.next heap routing stepped, kept.2.step heap kept.1 routing event stepped⟩
  obtain ⟨tended, outside⟩ := Runs.reached keeps start ran
  exact ⟨outside.silent.status, outside.silent.adds.callsSince, outside.questionAlone heap tended⟩

/-- A node with an empty list of members: its main loop waits for a message while `Init` goes on,
and asks its question when the timer is due. -/
theorem proposes_nothing_without_authority_once : ∃ after,
    run sortedTimers .source (firstProcess ∅) (insideInit ++ afterInit ++
        [.mainLoop [], .mainLoop [500000000], .mainLoop [], .mainLoop [3000000000000]]) =
      some after ∧
      after.node.proposer.status = .kNone ∧
      (∀ call ∈ Node.callsSince (blankProcess ∅).node after.node, SilentCall call) ∧
      (after.node.blocked = false →
        (after.scheduler.eventQueue.events = [] ∧ after.initPoint ≠ .returned) ∨
          after.QuestionAlone sortedTimers) := by
  obtain ⟨after, ran⟩ : ∃ after, run sortedTimers .source (firstProcess ∅) (insideInit ++
      afterInit ++ [.mainLoop [], .mainLoop [500000000], .mainLoop [],
        .mainLoop [3000000000000]]) = some after := ⟨_, rfl⟩
  exact ⟨after, ran, proposes_nothing_without_authority sortedTimers .source (blankProcess ∅)
    { index := 1, finishIndex := 0, limit := 10 } 0 0 [] (by decide) _ after ran⟩

end Process

end Paxosme
