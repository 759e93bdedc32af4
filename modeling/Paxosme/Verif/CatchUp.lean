import Paxosme.Lib.Runs
import Paxosme.Verif.NoTransfer

/-!
# Catching up

A follower that is behind asks, and a leader answers in one of two ways. To a follower one
instance behind it sends the record, which the follower takes for a value that it proposed
itself; to any other it tells its own instance, on which the follower blocks for ever. So the
follower catches up in one case only, and no transfer is ever started.

Two nodes are joined by one ordered queue each way, on which each message is delivered once to
the player that handles its type. The leader's sending thread and the follower's timer may take
a step at any time.
-/

namespace Paxosme
namespace CatchUp

/-- What some calls send to one node: the messages addressed to it, and the broadcasts. -/
def reaching (target : NodeId) (calls : List Call) : List PaxMessage :=
  calls.filterMap fun
    | .send nodeId message => if nodeId = target then some message else none
    | .broadcast message => some message
    | _ => none

/-- A leader and a follower, with the messages on their way between the two, oldest first. -/
structure Pair where
  /-- The leader. -/
  leader : Node
  /-- The follower. -/
  follower : Node
  /-- From the follower to the leader. -/
  toLeader : List PaxMessage := []
  /-- From the leader to the follower. -/
  toFollower : List PaxMessage := []

/-- The leader takes a step, and what it sends to the follower is on its way. -/
def Pair.lead (pair : Pair) (step : Node → Node) : Pair :=
  { pair with
    leader := step pair.leader
    toFollower := pair.toFollower ++
      reaching pair.follower.getNodeId (Node.callsSince pair.leader (step pair.leader)) }

/-- The follower takes a step, and what it sends to the leader is on its way. -/
def Pair.follow (pair : Pair) (step : Node → Node) : Pair :=
  { pair with
    follower := step pair.follower
    toLeader := pair.toLeader ++
      reaching pair.leader.getNodeId (Node.callsSince pair.follower (step pair.follower)) }

/-- What happens next. -/
inductive Event where
  /-- The leader's main thread takes the oldest message for it. -/
  | leaderReceives
  /-- The follower's main thread takes the oldest message for it. -/
  | followerReceives
  /-- The leader's sending thread takes a step. -/
  | leaderSends (tooSlow : Bool)
  /-- The follower runs `ShallLearn`. -/
  | followerAsks

/-- A message is handled. -/
def receive (message : PaxMessage) (node : Node) : Node :=
  PaxController.handleMessage .handlers node message

/-- The step of an event. A blocked main thread takes no message. -/
def step (pair : Pair) : Event → Pair
  | .leaderReceives =>
    match pair.leader.blocked, pair.toLeader with
    | false, message :: rest => Pair.lead { pair with toLeader := rest } (receive message)
    | _, _ => pair
  | .followerReceives =>
    match pair.follower.blocked, pair.toFollower with
    | false, message :: rest => Pair.follow { pair with toFollower := rest } (receive message)
    | _, _ => pair
  | .leaderSends tooSlow => pair.lead (PaxLearner.sendingStep · tooSlow)
  | .followerAsks => pair.follow (Cluster.onMainThread PaxLearner.shallLearn)

/-- Every message that can be delivered has been, and the leader's sending thread is done. -/
structure Complete (pair : Pair) : Prop where
  /-- The leader has taken all messages. -/
  leader : pair.leader.blocked = true ∨ pair.toLeader = []
  /-- The follower has taken all messages. -/
  follower : pair.follower.blocked = true ∨ pair.toFollower = []
  /-- No job is left. -/
  jobStatus : pair.leader.learner.jobStatus = .kStale

/-- The instances that a follower misses, oldest first, each with the leader's value. -/
def missing (executed : InstanceId → LogValue) (leader follower : Node) :
    List (LogValue × InstanceId) :=
  (List.range (leader.instanceId.toNat - follower.instanceId.toNat)).map fun offset =>
    (executed (follower.instanceId + UInt64.ofNat offset),
      follower.instanceId + UInt64.ofNat offset)

/-- What catching up achieves from two nodes on. -/
structure CaughtUp (executed : InstanceId → LogValue) (leader follower : Node) (pair : Pair) :
    Prop where
  /-- The follower has learned what it missed, in this order, and nothing else. -/
  learned : Node.learned (Node.callsSince follower pair.follower) =
    missing executed leader follower
  /-- Every value synchronised has been acknowledged to the leader. -/
  acknowledged : ∀ sync, (follower.getNodeId, sync) ∈
      Node.sends (Node.callsSince leader pair.leader) →
    sync.messageType = .learnerValueSync →
    ∃ ack, (leader.getNodeId, ack) ∈ Node.sends (Node.callsSince follower pair.follower) ∧
      ack.messageType = .syncValueAck ∧ ack.instanceId = sync.instanceId

/-- A run that starts with the follower's question. -/
def asking (leader follower : Node) (events : List Event) : Pair :=
  Runs.run step ⟨leader, follower, [], []⟩ (.followerAsks :: events)

/-- Every complete run that starts with the follower's question ends caught up. -/
def CatchesUp (executed : InstanceId → LogValue) (leader follower : Node) : Prop :=
  ∀ events, Complete (asking leader follower events) →
    CaughtUp executed leader follower (asking leader follower events)

/-- A leader that holds the executed value of every instance below its own, and a follower that
is behind and not learning. -/
structure Behind (executed : InstanceId → LogValue) (leader follower : Node) : Prop where
  /-- The leader is at rest. -/
  leads : AtRest leader
  /-- The follower is at rest. -/
  follows : AtRest follower
  /-- The follower is behind. -/
  behind : follower.instanceId < leader.instanceId
  /-- The leader's records. -/
  stored : ∀ instanceId < leader.instanceId, ∃ record,
    leader.storage.readLog instanceId = some record ∧ record.acceptedValue = executed instanceId
  /-- The follower is not learning. -/
  notLearning : follower.learner.isLearning = false

/-- The follower is one instance behind, the leader's record of that instance names it as the
proposer, and the number of the record is the one that its acceptor has accepted. -/
def JustBehind (leader follower : Node) : Prop :=
  leader.instanceId = follower.instanceId + 1 ∧
    (leader.readState follower.instanceId).proposerId = follower.getNodeId ∧
    follower.acceptor.acceptedProposalId ≠ proposalDummy ∧
    (leader.readState follower.instanceId).acceptedProposalId =
      follower.acceptor.acceptedProposalId

instance instDecidableJustBehind (leader follower : Node) : Decidable (JustBehind leader follower) :=
  inferInstanceAs (Decidable (_ ∧ _ ∧ _ ∧ _))

section Nodes

variable {node : Node}

/-- A message for the learner goes to the learner. -/
theorem receive_learner (node : Node) (message : PaxMessage)
    (learner : Routing.handlers.messageForLearner message.messageType = true) :
    receive message node = PaxController.finish (PaxLearner.handleMessage node message) := by
  have holder : Routing.handlers.messagePlaceHolder message.messageType = false := by
    cases kind : message.messageType with
    | newValueCommitted => simp [Routing.handlers, kind] at learner
    | _ => rfl
  rw [receive, PaxController.handleMessage, PaxController.handleMessageBody, holder,
    if_neg Bool.false_ne_true, PaxController.dispatch, if_pos learner]

/-- A question is answered and changes little else. -/
theorem receive_question (rest : AtRest node) (message : PaxMessage)
    (kind : message.messageType = .shallILearn) :
    ∃ highest, receive message node =
      { node with
        learner := { node.learner with highestKnownInstanceId := highest }
        calls := node.calls ++
          [.send message.sender (PaxLearner.shallILearnAnswer node message)] } := by
  obtain ⟨highest, answered⟩ := PaxLearner.handleShallILearn_eq node message
  refine ⟨highest, ?_⟩
  rw [receive_learner node message (by rw [kind]; rfl)]
  have handled : PaxLearner.handleMessage node message =
      PaxLearner.handleShallILearn node message := by
    simp only [PaxLearner.handleMessage, kind]
  rw [handled, answered]
  exact PaxController.finish_unlearned _ rest.unlearned

/-- Asking marks the node as not learning and broadcasts its question. -/
theorem asks_atRest (rest : AtRest node) :
    Cluster.onMainThread PaxLearner.shallLearn node =
      { node with
        learner := { node.learner with isLearning := false }
        calls := node.calls ++ [.addEvent .shallILearn .shallLearn PaxLearner.shallLearnDelay,
          .broadcast (PaxLearner.shallILearnMessage node)] } := by
  rw [Cluster.onMainThread_free _ node rest.free, PaxLearner.shallLearn_free node rest.free
    rest.unlocked]

/-- A published value that a guard stops is not learned. -/
theorem receive_stopped (rest : AtRest node) (message : PaxMessage)
    (kind : message.messageType = .learnerValueSend)
    (stopped : ¬ PaxLearner.PassesPublish node message) : receive message node = node := by
  have handled : PaxLearner.handleMessage node message = node := by
    simp only [PaxLearner.handleMessage, kind]
    exact PaxLearner.handleOthersPublish_stopped node message stopped
  rw [receive_learner node message (by rw [kind]; rfl), handled]
  exact PaxController.finish_unlearned node rest.unlearned

/-- A published value that passes the guards is learned, persisted and executed, and the next
instance starts. -/
theorem receive_passed (rest : AtRest node) (message : PaxMessage)
    (kind : message.messageType = .learnerValueSend)
    (passes : PaxLearner.PassesPublish node message) :
    AtRest (receive message node) ∧
      (receive message node).instanceId = node.instanceId + 1 ∧
      ∃ later, (receive message node).calls = node.calls ++ later ∧
        Node.learned later = [(message.chosenValue, message.instanceId)] ∧
        ∀ target, reaching target later = [] := by
  have handled : PaxLearner.handleMessage node message =
      PaxLearner.learnFromOthers node message := by
    simp only [PaxLearner.handleMessage, kind]
    exact PaxLearner.handleOthersPublish_passed node message passes
  have finished := PaxController.finish_learned (PaxLearner.learnFromOthers node message)
    (by rw [PaxLearner.learnFromOthers_current node message passes.1]; exact rest.free)
    (by rw [PaxLearner.learnFromOthers_current node message passes.1])
  rw [receive_learner node message (by rw [kind]; rfl), handled, finished,
    PaxLearner.learnFromOthers_current node message passes.1]
  refine ⟨⟨rest.free, rest.unlocked, rfl, rest.stale, rest.waiting⟩, rfl, _, List.append_assoc ..,
    rfl, fun target => rfl⟩

/-- Being told of an instance learns and sends nothing; the node stays at rest or is blocked. -/
theorem receive_told (rest : AtRest node) (message : PaxMessage)
    (kind : message.messageType = .tellInstanceId) :
    ((receive message node).blocked = true ∨ AtRest (receive message node)) ∧
      PaxLearner.besides (receive message node) = PaxLearner.besides node ∧
      (receive message node).calls = node.calls := by
  have handled : receive message node =
      PaxController.finish (PaxLearner.handleTellNewInstanceId node message) := by
    rw [receive_learner node message (by rw [kind]; rfl)]
    simp only [PaxLearner.handleMessage, kind]
  by_cases locks : PaxLearner.LocksOut node message
  · obtain ⟨highest, locked⟩ :=
      PaxLearner.handleTellNewInstanceId_locked node message locks rest.unlocked
    rw [handled, locked, PaxController.finish_blocked _ rfl]
    exact ⟨.inl rfl, rfl, rfl⟩
  · obtain ⟨highest, passed⟩ :=
      PaxLearner.handleTellNewInstanceId_passed node message locks rest.unlocked rest.free
    have unlearned := PaxController.finish_unlearned
      (PaxLearner.withLearner node { node.learner with highestKnownInstanceId := highest })
      rest.unlearned
    rw [handled, passed, unlearned]
    exact ⟨.inr ⟨rest.free, rest.unlocked, rest.unlearned, rest.stale, rest.waiting⟩, rfl, rfl⟩

end Nodes

section Pairs

/-- A message sent to a node reaches it alone. -/
theorem reaching_send (target nodeId : NodeId) (message : PaxMessage) :
    reaching target [.send nodeId message] = if nodeId = target then [message] else [] := by
  by_cases same : nodeId = target
  · simp [reaching, same]
  · simp [reaching, same]

/-- What the leader sends is read off the calls it adds. -/
theorem lead_eq (pair : Pair) (move : Node → Node) (later : List Call)
    (appended : (move pair.leader).calls = pair.leader.calls ++ later) :
    pair.lead move =
      { pair with
        leader := move pair.leader
        toFollower := pair.toFollower ++ reaching pair.follower.getNodeId later } := by
  rw [Pair.lead, Node.callsSince_of_append appended]

/-- What the follower sends is read off the calls it adds. -/
theorem follow_eq (pair : Pair) (move : Node → Node) (later : List Call)
    (appended : (move pair.follower).calls = pair.follower.calls ++ later) :
    pair.follow move =
      { pair with
        follower := move pair.follower
        toLeader := pair.toLeader ++ reaching pair.leader.getNodeId later } := by
  rw [Pair.follow, Node.callsSince_of_append appended]

/-- A step of the leader that does nothing. -/
theorem lead_same (pair : Pair) (move : Node → Node) (same : move pair.leader = pair.leader) :
    pair.lead move = pair := by
  rw [lead_eq pair move [] (by rw [same, List.append_nil]), same]
  exact congrArg (Pair.mk _ _ _) (List.append_nil _)

/-- A step of the follower that sends nothing. -/
theorem follow_silent (pair : Pair) (move : Node → Node)
    (silent : (move pair.follower).calls = pair.follower.calls) :
    pair.follow move = { pair with follower := move pair.follower } := by
  rw [follow_eq pair move [] (by rw [silent, List.append_nil])]
  simp [reaching]

/-- The leader takes a message. -/
theorem step_leaderReceives {pair : Pair} (free : pair.leader.blocked = false)
    {message : PaxMessage} {rest : List PaxMessage} (next : pair.toLeader = message :: rest)
    {later : List Call}
    (appended : (receive message pair.leader).calls = pair.leader.calls ++ later) :
    step pair .leaderReceives =
      { pair with
        leader := receive message pair.leader
        toLeader := rest
        toFollower := pair.toFollower ++ reaching pair.follower.getNodeId later } := by
  simp only [step, free, next]
  exact lead_eq { pair with toLeader := rest } (receive message) later appended

/-- The follower takes a message. -/
theorem step_followerReceives {pair : Pair} (free : pair.follower.blocked = false)
    {message : PaxMessage} {rest : List PaxMessage} (next : pair.toFollower = message :: rest)
    {later : List Call}
    (appended : (receive message pair.follower).calls = pair.follower.calls ++ later) :
    step pair .followerReceives =
      { pair with
        follower := receive message pair.follower
        toFollower := rest
        toLeader := pair.toLeader ++ reaching pair.leader.getNodeId later } := by
  simp only [step, free, next]
  exact follow_eq { pair with toFollower := rest } (receive message) later appended

/-- There is no message for the leader. -/
theorem step_leaderReceives_none {pair : Pair} (none : pair.toLeader = []) :
    step pair .leaderReceives = pair := by
  simp only [step, none]
  cases pair.leader.blocked with
  | _ => rfl

/-- There is no message for the follower. -/
theorem step_followerReceives_none {pair : Pair} (none : pair.toFollower = []) :
    step pair .followerReceives = pair := by
  simp only [step, none]
  cases pair.follower.blocked with
  | _ => rfl

/-- A blocked follower takes no message. -/
theorem step_followerReceives_blocked {pair : Pair} (blocked : pair.follower.blocked = true) :
    step pair .followerReceives = pair := by
  simp only [step, blocked]

end Pairs

/-- A leader that has answered questions and done nothing else. -/
structure Answering (origin node : Node) : Prop where
  /-- It is at rest. -/
  rest : AtRest node
  /-- The options are as before. -/
  options : node.options = origin.options
  /-- The instance is as before. -/
  instanceId : node.instanceId = origin.instanceId
  /-- The log is as before. -/
  storage : node.storage = origin.storage
  /-- It has sent no message of a transfer. -/
  calls : Node.Adds NoTransferCall origin node

/-- The answer depends on what does not change. -/
theorem Answering.answer {origin node : Node} (answering : Answering origin node)
    (message : PaxMessage) :
    PaxLearner.shallILearnAnswer node message = PaxLearner.shallILearnAnswer origin message := by
  simp only [PaxLearner.shallILearnAnswer, Node.getNodeId, Node.readState, answering.options,
    answering.instanceId, answering.storage]

/-- One more question is answered. -/
theorem Answering.receive {origin node : Node} (answering : Answering origin node)
    (message : PaxMessage) (kind : message.messageType = .shallILearn) :
    Answering origin (receive message node) ∧
      (CatchUp.receive message node).calls = node.calls ++
        [.send message.sender (PaxLearner.shallILearnAnswer origin message)] := by
  obtain ⟨highest, answered⟩ := receive_question answering.rest message kind
  obtain ⟨free, unlocked, unlearned, stale, waiting⟩ := answering.rest
  rw [answered, ← answering.answer message]
  refine ⟨⟨⟨free, unlocked, unlearned, stale, waiting⟩, answering.options,
    answering.instanceId, answering.storage, ?_⟩, rfl⟩
  refine answering.calls.trans ⟨_, rfl, fun call member => ?_⟩
  rw [List.mem_singleton.mp member]
  exact noTransfer_answer node message

/-- The sending thread of such a leader waits for a job. -/
theorem Answering.leaderSends {origin : Node} {pair : Pair}
    (answering : Answering origin pair.leader) (tooSlow : Bool) :
    step pair (.leaderSends tooSlow) = pair := by
  rw [step, lead_same pair _
    (PaxLearner.sendingStep_idle _ tooSlow answering.rest.stale answering.rest.waiting)]

section Progress

variable {executed : InstanceId → LogValue} {leader follower : Node}

/-- The follower has learned nothing. Every message on its way is its question or the leader's
answer to it. -/
structure Waiting (leader follower : Node) (pair : Pair) : Prop where
  /-- The leader answers. -/
  answering : Answering leader pair.leader
  /-- The follower is blocked or at rest. -/
  rest : pair.follower.blocked = true ∨ AtRest pair.follower
  /-- The follower is where it was. -/
  besides : PaxLearner.besides pair.follower = PaxLearner.besides follower
  /-- It has learned nothing. -/
  silent : ∃ later, pair.follower.calls = follower.calls ++ later ∧ Node.learned later = []
  /-- The questions. -/
  toLeader : ∀ question ∈ pair.toLeader, question = PaxLearner.shallILearnMessage follower
  /-- The answers. -/
  toFollower : ∀ answer ∈ pair.toFollower, answer =
    PaxLearner.shallILearnAnswer leader (PaxLearner.shallILearnMessage follower)

/-- A waiting follower that is still to take an answer. -/
structure Pending (leader follower : Node) (pair : Pair) : Prop
    extends Waiting leader follower pair where
  /-- The follower is at rest. -/
  atRest : AtRest pair.follower
  /-- One message at least is on its way. -/
  pending : pair.toLeader ≠ [] ∨ pair.toFollower ≠ []

/-- The follower has learned the one value and stands where the leader does. What is still on
its way is of no use to it. -/
structure Followed (executed : InstanceId → LogValue) (leader follower : Node) (pair : Pair) :
    Prop where
  /-- The leader answers. -/
  answering : Answering leader pair.leader
  /-- The follower is blocked or at rest. -/
  rest : pair.follower.blocked = true ∨ AtRest pair.follower
  /-- It is at the leader's instance. -/
  instanceId : pair.follower.instanceId = leader.instanceId
  /-- It has learned one value. -/
  learned : ∃ later, pair.follower.calls = follower.calls ++ later ∧
    Node.learned later = [(executed follower.instanceId, follower.instanceId)]
  /-- The questions. -/
  toLeader : ∀ question ∈ pair.toLeader, question.messageType = .shallILearn ∧
    (question.instanceId = follower.instanceId ∨ question.instanceId = leader.instanceId)
  /-- The answers. -/
  toFollower : ∀ answer ∈ pair.toFollower,
    answer.messageType = .learnerValueSend ∧ answer.instanceId = follower.instanceId ∨
      answer.messageType = .tellInstanceId

/-- Before the question nothing is on its way. -/
theorem waiting_start (leads : AtRest leader) (follows : AtRest follower) :
    Waiting leader follower ⟨leader, follower, [], []⟩ :=
  ⟨⟨leads, rfl, rfl, rfl, Node.adds_of_eq rfl⟩, .inr follows, rfl,
    ⟨[], (List.append_nil _).symm, rfl⟩, by simp, by simp⟩

/-- The answer that a follower just behind gets is the value that it misses. -/
theorem answer_justBehind (behind : Behind executed leader follower)
    (just : JustBehind leader follower) (answer : PaxMessage)
    (isAnswer : answer =
      PaxLearner.shallILearnAnswer leader (PaxLearner.shallILearnMessage follower)) :
    answer.messageType = .learnerValueSend ∧ answer.instanceId = follower.instanceId ∧
      answer.chosenValue = executed follower.instanceId ∧
      PaxLearner.PassesPublish follower answer := by
  obtain ⟨next, proposer, accepted, number⟩ := just
  obtain ⟨record, found, holds⟩ := behind.stored follower.instanceId behind.behind
  rw [PaxLearner.shallILearnAnswer_behind leader _ next.symm] at isAnswer
  rw [isAnswer]
  refine ⟨rfl, rfl, ?_, rfl, proposer, accepted, number⟩
  show (leader.readState follower.instanceId).acceptedValue = _
  rw [Node.readState, found]
  exact holds

/-- The answer to a follower that is not just behind teaches it nothing. -/
theorem receive_answer (notJust : ¬ JustBehind leader follower) (answer : PaxMessage)
    (isAnswer : answer =
      PaxLearner.shallILearnAnswer leader (PaxLearner.shallILearnMessage follower))
    {node : Node} (rest : AtRest node)
    (besides : PaxLearner.besides node = PaxLearner.besides follower) :
    ((receive answer node).blocked = true ∨ AtRest (receive answer node)) ∧
      PaxLearner.besides (receive answer node) = PaxLearner.besides node ∧
      (receive answer node).calls = node.calls := by
  by_cases next : (PaxLearner.shallILearnMessage follower).instanceId + 1 = leader.instanceId
  · rw [isAnswer, PaxLearner.shallILearnAnswer_behind leader _ next, receive_stopped rest _ rfl]
    · exact ⟨.inr rest, rfl, rfl⟩
    · intro passes
      obtain ⟨_, proposer, accepted, number⟩ :=
        PaxLearner.passesPublish_of_besides passes besides.symm
      exact notJust ⟨next.symm, proposer, accepted, number⟩
  · rw [isAnswer, PaxLearner.shallILearnAnswer_other leader _ next]
    exact receive_told rest _ rfl

section Waiting

variable {pair : Pair}

/-- The members of a waiting follower that its question names. -/
theorem Waiting.kept (waiting : Waiting leader follower pair) :
    pair.follower.getNodeId = follower.getNodeId ∧
      pair.follower.instanceId = follower.instanceId := by
  have besides := waiting.besides
  simp only [PaxLearner.besides, Prod.mk.injEq] at besides
  exact ⟨congrArg PaxosOptions.nodeId besides.1, besides.2.1⟩

/-- The leader answers the oldest question. -/
theorem Waiting.answers (waiting : Waiting leader follower pair) {question : PaxMessage}
    {rest : List PaxMessage} (next : pair.toLeader = question :: rest) :
    ∃ answered, Answering leader answered ∧
      CatchUp.step pair .leaderReceives =
        { pair with
          leader := answered
          toLeader := rest
          toFollower := pair.toFollower ++
            [PaxLearner.shallILearnAnswer leader (PaxLearner.shallILearnMessage follower)] } := by
  have isQuestion := waiting.toLeader question (by simp [next])
  obtain ⟨answering, calls⟩ := waiting.answering.receive question (by rw [isQuestion]; rfl)
  have addressed : question.sender = pair.follower.getNodeId := by
    rw [isQuestion, waiting.kept.1]
    rfl
  refine ⟨receive question pair.leader, answering, ?_⟩
  rw [step_leaderReceives waiting.answering.rest.free next calls, reaching_send,
    if_pos addressed, isQuestion]

/-- The follower puts its question, and is at rest where it was. -/
theorem Waiting.asks (waiting : Waiting leader follower pair) (rest : AtRest pair.follower) :
    ∃ asked, AtRest asked ∧ PaxLearner.besides asked = PaxLearner.besides follower ∧
      (∃ later, asked.calls = follower.calls ++ later ∧ Node.learned later = []) ∧
      CatchUp.step pair .followerAsks =
        { pair with
          follower := asked
          toLeader := pair.toLeader ++ [PaxLearner.shallILearnMessage follower] } := by
  have asks := asks_atRest rest
  have question : PaxLearner.shallILearnMessage pair.follower =
      PaxLearner.shallILearnMessage follower := by
    rw [PaxLearner.shallILearnMessage, waiting.kept.1, waiting.kept.2]
    rfl
  obtain ⟨free, unlocked, unlearned, stale, idle⟩ := rest
  obtain ⟨earlier, before, nothing⟩ := waiting.silent
  refine ⟨Cluster.onMainThread PaxLearner.shallLearn pair.follower, ?_, ?_, ?_, ?_⟩
  · rw [asks]
    exact ⟨free, unlocked, unlearned, stale, idle⟩
  · rw [asks]
    exact waiting.besides
  · refine ⟨_, by rw [asks, before, List.append_assoc], ?_⟩
    rw [Node.learned_append, nothing]
    rfl
  · rw [CatchUp.step, follow_eq pair _ _ (congrArg Node.calls asks), ← question]
    rfl

/-- The leader answers one more question. -/
theorem Waiting.leaderReceives (waiting : Waiting leader follower pair) :
    Waiting leader follower (CatchUp.step pair .leaderReceives) := by
  cases next : pair.toLeader with
  | nil =>
    rw [step_leaderReceives_none next]
    exact waiting
  | cons question rest =>
    obtain ⟨answered, answering, answers⟩ := waiting.answers next
    rw [answers]
    refine ⟨answering, waiting.rest, waiting.besides, waiting.silent, ?_, ?_⟩
    · intro other member
      exact waiting.toLeader other (by rw [next]; exact List.mem_cons_of_mem _ member)
    · intro answer member
      rcases List.mem_append.mp member with old | new
      · exact waiting.toFollower answer old
      · exact List.mem_singleton.mp new

/-- The follower puts its question once more. -/
theorem Waiting.followerAsks (waiting : Waiting leader follower pair) :
    Waiting leader follower (CatchUp.step pair .followerAsks) := by
  rcases waiting.rest with blocked | rest
  · have same := Cluster.onMainThread_blocked PaxLearner.shallLearn pair.follower blocked
    rw [CatchUp.step, follow_silent pair _ (by rw [same]), same]
    exact waiting
  · obtain ⟨asked, atRest, besides, silent, asks⟩ := waiting.asks rest
    rw [asks]
    refine ⟨waiting.answering, .inr atRest, besides, silent, ?_, waiting.toFollower⟩
    intro other member
    rcases List.mem_append.mp member with old | new
    · exact waiting.toLeader other old
    · exact List.mem_singleton.mp new

/-- A follower that is not just behind takes an answer and learns nothing. -/
theorem Waiting.followerReceives (notJust : ¬ JustBehind leader follower)
    (waiting : Waiting leader follower pair) :
    Waiting leader follower (CatchUp.step pair .followerReceives) := by
  rcases waiting.rest with blocked | atRest
  · rw [step_followerReceives_blocked blocked]
    exact waiting
  · cases next : pair.toFollower with
    | nil =>
      rw [step_followerReceives_none next]
      exact waiting
    | cons answer rest =>
      obtain ⟨later, before, nothing⟩ := waiting.silent
      obtain ⟨after, besides, calls⟩ := receive_answer notJust answer
        (waiting.toFollower answer (by simp [next])) atRest waiting.besides
      rw [step_followerReceives atRest.free next (calls.trans (List.append_nil _).symm)]
      simp only [reaching, List.filterMap_nil, List.append_nil]
      refine ⟨waiting.answering, after, besides.trans waiting.besides,
        ⟨later, calls.trans before, nothing⟩, waiting.toLeader, ?_⟩
      intro other member
      exact waiting.toFollower other (by rw [next]; exact List.mem_cons_of_mem _ member)

/-- A follower that is not just behind waits for ever. -/
theorem Waiting.step (notJust : ¬ JustBehind leader follower)
    (waiting : Waiting leader follower pair) (event : Event) :
    Waiting leader follower (step pair event) := by
  cases event with
  | leaderReceives => exact waiting.leaderReceives
  | followerReceives => exact waiting.followerReceives notJust
  | leaderSends tooSlow =>
    rw [waiting.answering.leaderSends tooSlow]
    exact waiting
  | followerAsks => exact waiting.followerAsks

end Waiting

section Pending

variable {pair : Pair}

/-- The follower that has put its question is to take an answer. -/
theorem Waiting.pending_asked (waiting : Waiting leader follower pair)
    (rest : AtRest pair.follower) :
    Pending leader follower (CatchUp.step pair .followerAsks) := by
  have after := waiting.followerAsks
  obtain ⟨asked, atRest, _, _, asks⟩ := waiting.asks rest
  rw [asks] at after ⊢
  exact ⟨after, atRest, .inl (List.append_ne_nil_of_right_ne_nil _ (List.cons_ne_nil _ _))⟩

/-- The leader answers one more question. -/
theorem Pending.leaderReceives (pending : Pending leader follower pair) :
    Pending leader follower (CatchUp.step pair .leaderReceives) := by
  have after := pending.toWaiting.leaderReceives
  cases next : pair.toLeader with
  | nil =>
    rw [step_leaderReceives_none next]
    exact pending
  | cons question rest =>
    obtain ⟨answered, _, answers⟩ := pending.toWaiting.answers next
    rw [answers] at after ⊢
    exact ⟨after, pending.atRest,
      .inr (List.append_ne_nil_of_right_ne_nil _ (List.cons_ne_nil _ _))⟩

/-- The follower takes the answer, and follows. -/
theorem Pending.followerReceives (behind : Behind executed leader follower)
    (just : JustBehind leader follower) (pending : Pending leader follower pair) :
    Pending leader follower (CatchUp.step pair .followerReceives) ∨
      Followed executed leader follower (CatchUp.step pair .followerReceives) := by
  cases next : pair.toFollower with
  | nil =>
    rw [step_followerReceives_none next]
    exact .inl pending
  | cons answer rest =>
    right
    obtain ⟨kind, named, value, passes⟩ := answer_justBehind behind just answer
      (pending.toFollower answer (by simp [next]))
    obtain ⟨atRest, left, later, appended, learned, sent⟩ :=
      receive_passed pending.atRest answer kind
        (PaxLearner.passesPublish_of_besides passes pending.besides)
    obtain ⟨earlier, before, nothing⟩ := pending.silent
    rw [step_followerReceives pending.atRest.free next appended, sent]
    refine ⟨pending.answering, .inr atRest, ?_, ⟨earlier ++ later, ?_, ?_⟩, ?_, ?_⟩
    · rw [left, pending.toWaiting.kept.2, just.1]
    · rw [appended, before, List.append_assoc]
    · rw [Node.learned_append, nothing, learned, value, named]
      rfl
    · intro question member
      rw [pending.toLeader question (by simpa using member)]
      exact ⟨rfl, .inl rfl⟩
    · intro other member
      obtain ⟨otherKind, otherNamed, _⟩ := answer_justBehind behind just other
        (pending.toFollower other (by rw [next]; exact List.mem_cons_of_mem _ member))
      exact .inl ⟨otherKind, otherNamed⟩

/-- While an answer is to come, every event leaves it so or lets the follower follow. -/
theorem Pending.step (behind : Behind executed leader follower) (just : JustBehind leader follower)
    (pending : Pending leader follower pair) (event : Event) :
    Pending leader follower (step pair event) ∨
      Followed executed leader follower (step pair event) := by
  cases event with
  | leaderReceives => exact .inl pending.leaderReceives
  | followerReceives => exact pending.followerReceives behind just
  | leaderSends tooSlow =>
    rw [pending.answering.leaderSends tooSlow]
    exact .inl pending
  | followerAsks => exact .inl (pending.toWaiting.pending_asked pending.atRest)

/-- In a complete run no answer is to come. -/
theorem Pending.not_complete (pending : Pending leader follower pair) : ¬ Complete pair := by
  rintro ⟨leaderDone, followerDone, _⟩
  rcases pending.pending with questions | answers
  · rcases leaderDone with blocked | none
    · rw [pending.answering.rest.free] at blocked
      contradiction
    · exact questions none
  · rcases followerDone with blocked | none
    · rw [pending.atRest.free] at blocked
      contradiction
    · exact answers none

end Pending

section Followed

variable {pair : Pair}

/-- The leader answers one more question, of no use any more. -/
theorem Followed.leaderReceives (followed : Followed executed leader follower pair) :
    Followed executed leader follower (CatchUp.step pair .leaderReceives) := by
  cases next : pair.toLeader with
  | nil =>
    rw [step_leaderReceives_none next]
    exact followed
  | cons question rest =>
    obtain ⟨kind, asked⟩ := followed.toLeader question (by simp [next])
    obtain ⟨answering, calls⟩ := followed.answering.receive question kind
    rw [step_leaderReceives followed.answering.rest.free next calls, reaching_send]
    refine ⟨answering, followed.rest, followed.instanceId, followed.learned, ?_, ?_⟩
    · intro other member
      exact followed.toLeader other (by rw [next]; exact List.mem_cons_of_mem _ member)
    · intro answer member
      rcases List.mem_append.mp member with old | new
      · exact followed.toFollower answer old
      · have isAnswer : answer = PaxLearner.shallILearnAnswer leader question := by
          split at new
          · exact List.mem_singleton.mp new
          · exact absurd new List.not_mem_nil
        rw [isAnswer]
        by_cases next : question.instanceId + 1 = leader.instanceId
        · rw [PaxLearner.shallILearnAnswer_behind leader question next]
          rcases asked with old | current
          · exact .inl ⟨rfl, old⟩
          · exact absurd (current ▸ next) (WordOrder.add_one_ne _)
        · rw [PaxLearner.shallILearnAnswer_other leader question next]
          exact .inr rfl

/-- The follower takes an answer to an earlier question, and learns nothing from it. -/
theorem Followed.followerReceives (behind : Behind executed leader follower)
    (followed : Followed executed leader follower pair) :
    Followed executed leader follower (CatchUp.step pair .followerReceives) := by
  rcases followed.rest with blocked | rest
  · rw [step_followerReceives_blocked blocked]
    exact followed
  · cases next : pair.toFollower with
    | nil =>
      rw [step_followerReceives_none next]
      exact followed
    | cons answer others =>
      obtain ⟨later, before, learned⟩ := followed.learned
      have fewer (other : PaxMessage) (member : other ∈ others) :=
        followed.toFollower other (by rw [next]; exact List.mem_cons_of_mem _ member)
      rcases followed.toFollower answer (by simp [next]) with ⟨kind, named⟩ | kind
      · -- a second copy of the value is of an instance that has been left
        have old : answer.instanceId ≠ pair.follower.instanceId := by
          rw [named, followed.instanceId]
          exact ne_of_lt behind.behind
        have same := receive_stopped rest answer kind fun passes => old passes.1
        rw [step_followerReceives rest.free next (by rw [same, List.append_nil]), same]
        simp only [reaching, List.filterMap_nil, List.append_nil]
        exact ⟨followed.answering, followed.rest, followed.instanceId, followed.learned,
          followed.toLeader, fewer⟩
      · obtain ⟨after, besides, calls⟩ := receive_told rest answer kind
        rw [step_followerReceives rest.free next (calls.trans (List.append_nil _).symm)]
        simp only [reaching, List.filterMap_nil, List.append_nil]
        refine ⟨followed.answering, after, ?_, ⟨later, calls.trans before, learned⟩,
          followed.toLeader, fewer⟩
        exact (congrArg (·.2.1) besides).trans followed.instanceId

/-- The follower asks for the instance that it has reached. -/
theorem Followed.followerAsks (followed : Followed executed leader follower pair) :
    Followed executed leader follower (CatchUp.step pair .followerAsks) := by
  rcases followed.rest with blocked | rest
  · have same := Cluster.onMainThread_blocked PaxLearner.shallLearn pair.follower blocked
    rw [CatchUp.step, follow_silent pair _ (by rw [same]), same]
    exact followed
  · obtain ⟨later, before, learned⟩ := followed.learned
    have asks := asks_atRest rest
    obtain ⟨free, unlocked, unlearned, stale, idle⟩ := rest
    rw [CatchUp.step, follow_eq pair _ _ (by rw [asks])]
    simp only [asks]
    refine ⟨followed.answering, .inr ⟨free, unlocked, unlearned, stale, idle⟩,
      followed.instanceId, ⟨_, by rw [before, List.append_assoc], ?_⟩, ?_, followed.toFollower⟩
    · rw [Node.learned_append, learned]
      rfl
    · intro other member
      rcases List.mem_append.mp member with old | new
      · exact followed.toLeader other old
      · rw [List.mem_singleton.mp new]
        exact ⟨rfl, .inr followed.instanceId⟩

/-- Once the follower has followed, no event undoes it. -/
theorem Followed.step (behind : Behind executed leader follower)
    (followed : Followed executed leader follower pair) (event : Event) :
    Followed executed leader follower (step pair event) := by
  cases event with
  | leaderReceives => exact followed.leaderReceives
  | followerReceives => exact followed.followerReceives behind
  | leaderSends tooSlow =>
    rw [followed.answering.leaderSends tooSlow]
    exact followed
  | followerAsks => exact followed.followerAsks

end Followed

/-- A follower that is behind misses one value at least. -/
theorem missing_ne_nil (behind : follower.instanceId < leader.instanceId) :
    missing executed leader follower ≠ [] := by
  have fewer : follower.instanceId.toNat < leader.instanceId.toNat :=
    UInt64.lt_iff_toNat_lt.mp behind
  intro none
  have zero : leader.instanceId.toNat - follower.instanceId.toNat = 0 := by
    simpa [missing] using none
  omega

/-- A follower just behind misses one value. -/
theorem missing_next (behind : follower.instanceId < leader.instanceId)
    (next : leader.instanceId = follower.instanceId + 1) :
    missing executed leader follower =
      [(executed follower.instanceId, follower.instanceId)] := by
  have one : leader.instanceId.toNat - follower.instanceId.toNat = 1 := by
    have fewer := UInt64.lt_iff_toNat_lt.mp behind
    rw [next, UInt64.toNat_add] at fewer ⊢
    have bound := follower.instanceId.toNat_lt
    simp only [UInt64.reduceToNat] at fewer ⊢
    omega
  simp [missing, one]

/-- A follower that has followed has caught up. -/
theorem Followed.caughtUp (behind : Behind executed leader follower)
    (next : leader.instanceId = follower.instanceId + 1) {pair : Pair}
    (followed : Followed executed leader follower pair) :
    CaughtUp executed leader follower pair := by
  obtain ⟨later, appended, learned⟩ := followed.learned
  constructor
  · rw [Node.callsSince_of_append appended, learned, missing_next behind.behind next]
  · intro sync member kind
    have noTransfer := followed.answering.calls.callsSince _ (Node.mem_sends.mp member)
    exact absurd kind noTransfer.2

/-- A follower that waits has not caught up. -/
theorem Waiting.not_caughtUp (behind : Behind executed leader follower) {pair : Pair}
    (waiting : Waiting leader follower pair) : ¬ CaughtUp executed leader follower pair := by
  intro caughtUp
  obtain ⟨later, appended, nothing⟩ := waiting.silent
  have learned := caughtUp.learned
  rw [Node.callsSince_of_append appended, nothing] at learned
  exact missing_ne_nil behind.behind learned.symm

/-- A follower just behind catches up, whatever the order of the events. -/
theorem caughtUp_of_justBehind (behind : Behind executed leader follower)
    (just : JustBehind leader follower) (events : List Event)
    (complete : Complete (asking leader follower events)) :
    CaughtUp executed leader follower (asking leader follower events) := by
  have keeps (pair : Pair) (event : Event)
      (progress : Pending leader follower pair ∨ Followed executed leader follower pair) :
      Pending leader follower (step pair event) ∨
        Followed executed leader follower (step pair event) := by
    rcases progress with pending | followed
    · exact pending.step behind just event
    · exact .inr (followed.step behind event)
  have asked := (waiting_start behind.leads behind.follows).pending_asked behind.follows
  have progress := Runs.invariant keeps _ events (.inl asked)
  rcases progress with pending | followed
  · exact absurd complete pending.not_complete
  · exact followed.caughtUp behind just.1

/-- A follower that is not just behind never catches up, whatever the order of the events. -/
theorem not_caughtUp (behind : Behind executed leader follower)
    (notJust : ¬ JustBehind leader follower) (events : List Event) :
    ¬ CaughtUp executed leader follower (asking leader follower events) := by
  have keeps (pair : Pair) (event : Event) (waiting : Waiting leader follower pair) :=
    waiting.step notJust event
  exact (Runs.invariant keeps _ _ (waiting_start behind.leads behind.follows)).not_caughtUp behind

/-- The answer makes the follower send nothing. -/
theorem receive_silent (behind : Behind executed leader follower) (answer : PaxMessage)
    (isAnswer : answer =
      PaxLearner.shallILearnAnswer leader (PaxLearner.shallILearnMessage follower))
    {node : Node} (rest : AtRest node)
    (besides : PaxLearner.besides node = PaxLearner.besides follower) :
    ∃ later, (receive answer node).calls = node.calls ++ later ∧
      ∀ target, reaching target later = [] := by
  by_cases just : JustBehind leader follower
  · obtain ⟨kind, _, _, passes⟩ := answer_justBehind behind just answer isAnswer
    obtain ⟨_, _, later, appended, _, sent⟩ :=
      receive_passed rest answer kind (PaxLearner.passesPublish_of_besides passes besides)
    exact ⟨later, appended, sent⟩
  · obtain ⟨_, _, calls⟩ := receive_answer just answer isAnswer rest besides
    exact ⟨[], calls.trans (List.append_nil _).symm, fun _ => rfl⟩

/-- The run in which the leader takes the question and the follower its answer is complete. -/
theorem complete_answered (behind : Behind executed leader follower) :
    Complete (asking leader follower [.leaderReceives, .followerReceives]) := by
  have start := waiting_start behind.leads behind.follows
  have waiting := start.followerAsks
  obtain ⟨asked, atRest, besides, _, asks⟩ := start.asks behind.follows
  rw [asks] at waiting
  obtain ⟨answered, answering, answers⟩ := waiting.answers rfl
  simp only [List.nil_append] at asks answers
  rw [asking, Runs.run_cons, asks, Runs.run_cons, answers, Runs.run_cons, Runs.run_nil]
  generalize isAnswer : PaxLearner.shallILearnAnswer leader
    (PaxLearner.shallILearnMessage follower) = answer
  obtain ⟨later, appended, sent⟩ := receive_silent behind answer isAnswer.symm atRest besides
  have takes : step ⟨answered, asked, [], [answer]⟩ .followerReceives =
      ⟨answered, receive answer asked, [], []⟩ := by
    simp only [step, atRest.free]
    rw [follow_eq ⟨answered, asked, [], []⟩ (receive answer) later appended, sent]
    rfl
  rw [takes]
  exact ⟨.inr rfl, .inr rfl, answering.rest.stale⟩

end Progress

/-- **Catching up works in one case.** A follower that is behind learns what it misses, in every
complete run that starts with its question, exactly when it is one instance behind and proposed
the missing value itself under the number that its acceptor has accepted. There is such a run,
and a follower that does not catch up in one of them does so in none. -/
theorem catchesUp_iff (executed : InstanceId → LogValue) (leader follower : Node)
    (behind : Behind executed leader follower) :
    (CatchesUp executed leader follower ↔ JustBehind leader follower) ∧
      (∃ events, Complete (asking leader follower events)) ∧
      ∀ events, Complete (asking leader follower events) →
        (CaughtUp executed leader follower (asking leader follower events) ↔
          JustBehind leader follower) := by
  have answered := complete_answered behind
  have each (events : List Event) (complete : Complete (asking leader follower events)) :
      CaughtUp executed leader follower (asking leader follower events) ↔
        JustBehind leader follower := by
    constructor
    · intro caughtUp
      by_contra notJust
      exact not_caughtUp behind notJust events caughtUp
    · intro just
      exact caughtUp_of_justBehind behind just events complete
  refine ⟨⟨?_, ?_⟩, ⟨_, answered⟩, each⟩
  · intro catchesUp
    exact (each _ answered).mp (catchesUp _ answered)
  · intro just events complete
    exact (each events complete).mpr just

/-- The record of an instance in which the value "*" of node 2 was executed. -/
def executedEntry (instanceId : InstanceId) : PaxosLogEntry :=
  { proposerId := 2, instanceId, acceptedProposalId := 2, acceptedNodeId := 2,
    acceptedValue := [42] }

/-- Node 1, which has recorded the first two instances. -/
def aheadLeader (instanceId : InstanceId) : Node :=
  { Node.fresh ⟨1, 1 / 2, 2, 0⟩ instanceId with
    storage := PaxStore.writeLog (PaxStore.writeLog (fun _ => none) (executedEntry 0))
      (executedEntry 1) }

/-- Node 2 has proposed and accepted a value in the first instance. -/
def lateFollower : Node :=
  { Node.fresh ⟨2, 1 / 2, 2, 0⟩ 0 with
    acceptor := { promisedProposalId := 2, promisedNodeId := 2, acceptedProposalId := 2,
                  acceptedProposer := 2, acceptedValue := [42] } }

/-- Node 2 is behind node 1. -/
theorem behind_late (instanceId : InstanceId) (ahead : 0 < instanceId) (bound : instanceId ≤ 2) :
    Behind (fun _ => [42]) (aheadLeader instanceId) lateFollower where
  leads := ⟨rfl, rfl, rfl, rfl, rfl⟩
  follows := ⟨rfl, rfl, rfl, rfl, rfl⟩
  behind := ahead
  stored earlier below := by
    by_cases last : earlier = 1
    · exact ⟨executedEntry 1, by rw [last]; exact PaxStore.readLog_writeLog _ _, rfl⟩
    · have first : earlier = 0 := by
        have small := UInt64.lt_iff_toNat_lt.mp (lt_of_lt_of_le below bound)
        have other : earlier.toNat ≠ 1 := fun same => last (UInt64.toNat_inj.mp same)
        apply UInt64.toNat_inj.mp
        simp only [UInt64.reduceToNat] at small ⊢
        omega
      refine ⟨executedEntry 0, ?_, rfl⟩
      rw [first, aheadLeader, PaxStore.readLog_writeLog_of_ne _ _ _ (by decide)]
      exact PaxStore.readLog_writeLog _ _
  notLearning := rfl

/-- One instance behind, node 2 catches up. -/
theorem catchesUp_one : CatchesUp (fun _ => [42]) (aheadLeader 1) lateFollower :=
  (catchesUp_iff _ _ _ (behind_late 1 (by decide) (by decide))).1.mpr (by decide)

/-- Two instances behind, it does not: the run in which the leader takes its question and it
takes the answer is complete, and leaves it where it was. -/
theorem not_catchesUp_two :
    Behind (fun _ => [42]) (aheadLeader 2) lateFollower ∧
      Complete (asking (aheadLeader 2) lateFollower [.leaderReceives, .followerReceives]) ∧
      ¬ CaughtUp (fun _ => [42]) (aheadLeader 2) lateFollower
        (asking (aheadLeader 2) lateFollower [.leaderReceives, .followerReceives]) :=
  have behind := behind_late 2 (by decide) (by decide)
  ⟨behind, complete_answered behind, not_caughtUp behind (by decide) _⟩

end CatchUp
end Paxosme
