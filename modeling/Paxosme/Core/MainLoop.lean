import Paxosme.Core.Cluster
import Paxosme.Core.ProposalProv
import Paxosme.Core.Recovery
import Paxosme.Core.Scheduler
import Paxosme.Lib.Runs

/-!
# The main loop

`PaxController::MainLoop` is the thread in which a process works. It calls the timers that
`Dispatch` returns, waits for a message until the time that `NextEventTime` assigns, handles the
message and asks for a new value. `Process` is that thread with the objects it shares with others:
the scheduler, the queue of messages and the provider of new values. A step of the thread ends
where it may wait or where it has read one of the three; the steps of all other threads come in
between.

`PaxController::Init` starts the thread before the proposer and the learner know their controller,
so the loop may run while `Init` does. The scheduler has no lock; its calls are taken not to
overlap.

The clock is the steady clock in nanoseconds. A step of the main thread is given how much time
passes before each of its readings, and before each call that a player makes.
-/

namespace Paxosme

/-- `SafeQueue`. -/
structure SafeQueue (α : Type) where
  /-- `queue_`, its front first. -/
  queue : List α := []
  /-- `limit_`. -/
  limit : Nat

namespace SafeQueue

variable {α : Type}

/-- `SafeQueue::TryAdd`. -/
def tryAdd (queue : SafeQueue α) (t : α) : SafeQueue α × Bool :=
  if queue.queue.length < queue.limit then ({ queue with queue := queue.queue ++ [t] }, true)
  else (queue, false)

/-- `SafeQueue::Take` when its wait is over: the front, which is popped, if there is one. -/
def take (queue : SafeQueue α) : Option (α × SafeQueue α) :=
  match queue.queue with
  | [] => none
  | front :: rest => some (front, { queue with queue := rest })

end SafeQueue

/-- `HARDCODE_MSG_COUNT_LIMIT`. -/
def hardcodeMsgCountLimit : Nat := 1000

/-- The nanoseconds of a millisecond. -/
def millisecond : Int := 1000000

/-- The delay of `PaxPlayer::Publish`: its argument is converted to a
`std::chrono::duration<int>`, which counts seconds. -/
def publishDelay (delayInMilli : Millisec) : Int :=
  Int.bmod delayInMilli.toNat (2 ^ 32) * (1000 * millisecond)

/-- The enumerator that the provider is given. -/
def NewValueResult.pending : NewValueResult → PendingResult
  | .valueTimeout => .kValueTimeout
  | .valueAccepted => .kValueAccepted

/-- Where `PaxController::MainLoop` stands. -/
inductive LoopPoint where
  /-- At the head of the loop that calls `Dispatch`. -/
  | dispatch
  /-- Before `NextEventTime`. -/
  | nextEventTime
  /-- In `Take`, which waits until the clock reads so. -/
  | take (deadline : Int)
  /-- Before `TryNewValue`. -/
  | tryNewValue
  deriving DecidableEq, Repr

/-- What `PaxController::Init` does next, once it has started the main loop. -/
inductive InitPoint where
  /-- Asks the acceptor for its accepted proposal. -/
  | getAcceptedProposalId
  /-- `PaxProposer::Init`. -/
  | proposerInit (proposalId : ProposalId)
  /-- `PaxLearner::Init` up to `Publish`. -/
  | learnerInit
  /-- `Publish` of the learner's question. -/
  | learnerPublish
  /-- Nothing: it has returned. -/
  | returned
  deriving DecidableEq, Repr

/-- The proposer has its `controller_`. -/
def InitPoint.proposerKnows : InitPoint → Bool
  | .getAcceptedProposalId | .proposerInit _ => false
  | .learnerInit | .learnerPublish | .returned => true

/-- The learner has its `controller_`. -/
def InitPoint.learnerKnows : InitPoint → Bool
  | .getAcceptedProposalId | .proposerInit _ | .learnerInit => false
  | .learnerPublish | .returned => true

/-- A process: its controller, the objects that its threads share, and the main thread. -/
structure Process where
  /-- The controller with its players. -/
  node : Node
  /-- `members_` of the options. -/
  members : Finset NodeId := ∅
  /-- `timeout_ms_` of the provider. -/
  newValueTimeout : Millisec
  /-- `Scheduler::SingleInstance`. -/
  scheduler : Scheduler EventType TimerCallback := {}
  /-- `msgProv_`. -/
  msgProv : SafeQueue PaxMessage := { limit := hardcodeMsgCountLimit }
  /-- `proposal_prov_`. -/
  prov : ProposalProv
  /-- The indexes that client threads wait for in `SubmitAndWait`. -/
  waiting : List Index := []
  /-- The last reading of the clock. -/
  clock : Int
  /-- Where the main thread stands. -/
  point : LoopPoint := .dispatch
  /-- Where the thread stands that called `PaxController::Init`. -/
  initPoint : InitPoint := .getAcceptedProposalId

/-- A step of a process. -/
inductive ProcessEvent where
  /-- The main thread goes on; so much time passes before each reading of the clock. -/
  | mainLoop (elapsed : List Nat)
  /-- `PaxController::Init` goes on. -/
  | init (elapsed : List Nat)
  /-- `AddMessage` is called. -/
  | addMessage (message : PaxMessage)
  /-- A client thread calls `SubmitAndWait`. -/
  | submitAndWait (value : LogValue)
  /-- A client thread looks at the condition that it waits for. -/
  | wake (index : Index)
  /-- The sending thread goes on. -/
  | sending (tooSlow : Bool)
  deriving DecidableEq, Repr

namespace Process

variable (heap : EventHeap EventType TimerCallback)

/-- Time passes. -/
def tick (process : Process) (elapsed : Nat) : Process :=
  { process with clock := process.clock + elapsed }

/-- What a call that leaves the players does to the objects of the process. -/
def makeCall (process : Process) : Call → Process
  | .addEvent eventType callback delay =>
    let when := process.clock + publishDelay delay
    { process with scheduler := process.scheduler.addEvent heap callback when eventType }
  | .removeEvent eventType => { process with scheduler := process.scheduler.remove eventType }
  | .writeResult value instanceId result =>
    { process with prov := (process.prov.writeResult value instanceId result.pending).1 }
  | _ => process

/-- Some calls one after another. -/
def makeCalls : Process → List Nat → List Call → Process
  | process, _, [] => process
  | process, elapsed, call :: calls =>
    makeCalls ((process.tick (elapsed.headD 0)).makeCall heap call) elapsed.tail calls

/-- A step of the players on the main thread, with the calls that it makes. -/
def perform (process : Process) (step : Node → Node) (elapsed : List Nat) : Process :=
  makeCalls heap { process with node := step process.node } elapsed
    (Node.callsSince process.node (step process.node))

/-- `PaxosOptions::ProposingAuthority`. -/
def proposingAuthority (process : Process) : Bool := process.node.getNodeId ∈ process.members

/-- `PaxController::TryNewValue`. -/
def tryNewValue (process : Process) (elapsed : List Nat) : Process :=
  if PaxLearner.anymoreToLearn process.node then process
  else if !process.proposingAuthority then process
  else
    let (prov, flushed) := process.prov.flush process.node.instanceId
    perform heap { process with prov }
      (PaxProposer.newValue · flushed process.newValueTimeout) elapsed

/-- `PaxController::AddMessage`. The message is lost when the queue is full. -/
def addMessage (process : Process) (message : PaxMessage) : Process :=
  { process with msgProv := (process.msgProv.tryAdd message).1 }

/-- No player is given the message that does not have its `controller_`. -/
def known (routing : Routing) (process : Process) (message : PaxMessage) : Bool :=
  routing.messagePlaceHolder message.messageType ||
    if routing.messageForLearner message.messageType then process.initPoint.learnerKnows
    else !routing.messageForProposer message.messageType || process.initPoint.proposerKnows

/-- The main thread goes on with `PaxController::MainLoop`, if it does not read the front of an
empty vector and uses no player that does not have its `controller_`. -/
def mainLoop (routing : Routing) (process : Process) (elapsed : List Nat) : Option Process :=
  if process.node.blocked then some process
  else match process.point with
    | .dispatch =>
      let process := process.tick (elapsed.headD 0)
      match process.scheduler.dispatch heap process.clock with
      | (none, scheduler) => some { process with scheduler, point := .nextEventTime }
      | (some eventToHandle, scheduler) =>
        some (perform heap { process with scheduler } eventToHandle.callback.fire elapsed.tail)
    | .nextEventTime =>
      match process.scheduler.nextEventTime heap with
      | none => none
      | some (none, scheduler) =>
        let process := process.tick (elapsed.headD 0)
        some { process with scheduler, point := .take (process.clock + 500 * millisecond) }
      | some (some nextEventTime, scheduler) =>
        let process := process.tick (elapsed.headD 0)
        let waitTime := (nextEventTime - process.clock).tdiv millisecond
        let process := process.tick (elapsed.tail.headD 0)
        some { process with
          scheduler
          point := .take (process.clock + waitTime * millisecond) }
    | .take deadline =>
      let process := process.tick (elapsed.headD 0)
      match process.msgProv.take with
      | some (message, msgProv) =>
        if process.known routing message then
          some (perform heap { process with msgProv, point := .tryNewValue }
            (PaxController.handleMessage routing · message) elapsed.tail)
        else none
      | none =>
        if process.clock < deadline then some process
        else some { process with point := .tryNewValue }
    | .tryNewValue =>
      if process.initPoint.learnerKnows then
        some (tryNewValue heap { process with point := .dispatch } elapsed)
      else none

/-- `PaxController::Init` goes on behind the start of the main loop. -/
def init (process : Process) (elapsed : List Nat) : Process :=
  match process.initPoint with
  | .getAcceptedProposalId =>
    { process with initPoint := .proposerInit (process.node.acceptor.acceptedProposalId + 1) }
  | .proposerInit proposalId =>
    { process with node := PaxProposer.init process.node proposalId, initPoint := .learnerInit }
  | .learnerInit => { process with initPoint := .learnerPublish }
  | .learnerPublish =>
    perform heap { process with initPoint := .returned } PaxLearner.init elapsed
  | .returned => process

/-- `ProposalProv::SubmitAndWait` up to the wait. A thread whose condition holds when it comes to
the wait does not wait. -/
def submitAndWait (process : Process) (value : LogValue) : Process :=
  match process.prov.submitAndWait value with
  | (prov, none) => { process with prov }
  | (prov, some index) =>
    let process :=
      addMessage { process with prov } (PaxMessage.new nodeDummy .newValueCommitted)
    if process.prov.finishIndex = index then
      { process with prov := process.prov.submitted.1 }
    else { process with waiting := process.waiting ++ [index] }

/-- `ProposalProv::SubmitAndWait` after the wait, which ends when `finish_index_` is the index. -/
def wake (process : Process) (index : Index) : Process :=
  if index ∈ process.waiting ∧ process.prov.finishIndex = index then
    { process with prov := process.prov.submitted.1, waiting := process.waiting.erase index }
  else process

/-- One step of a process, if it is defined. -/
def step (routing : Routing) (process : Process) : ProcessEvent → Option Process
  | .mainLoop elapsed => mainLoop heap routing process elapsed
  | .init elapsed => some (init heap process elapsed)
  | .addMessage message => some (process.addMessage message)
  | .submitAndWait value => some (process.submitAndWait value)
  | .wake index => some (process.wake index)
  | .sending tooSlow =>
    some { process with node := PaxLearner.sendingStep process.node tooSlow }

/-- A process after some steps. -/
def run (routing : Routing) (process : Process) (events : List ProcessEvent) : Option Process :=
  Runs.run (fun state event => state.bind (step heap routing · event)) (some process) events

/-- A process is started on the log of another one, which has ended: the controller and the objects
that it shares are new, and `PaxController::Init` has just started the main loop, given the instance
id of the state machine. -/
def launch (process : Process) (prov : ProposalProv) (memory instanceInSM : InstanceId)
    (elapsed : List Nat) : Process :=
  perform heap
    { node := PaxController.reborn process.node memory
      members := process.members
      newValueTimeout := process.newValueTimeout
      prov
      clock := process.clock }
    (PaxController.recover · instanceInSM) elapsed

/-- The steps of a process of its own accord: all but the calls of `AddMessage`, and but those of
`PaxController::Init`. -/
def IsOwn : ProcessEvent → Prop
  | .addMessage _ | .init _ => False
  | _ => True

open Delivery in
/-- A process among others. A message is added to its queue when it comes. A step that is not defined
leaves the process as it is. -/
def party (routing : Routing) :
    Party NodeId Process { event : ProcessEvent // IsOwn event } PaxMessage where
  receive process message := (process.addMessage message, [])
  act process event :=
    match step heap routing process event with
    | none => (process, [])
    | some after => (after, Cluster.posts (Node.callsSince process.node after.node))

end Process

end Paxosme
