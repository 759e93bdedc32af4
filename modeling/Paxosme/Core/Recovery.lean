import Paxosme.Core.Controller

/-!
# Restarts

A process that crashes keeps its log and nothing else. `PaxController::Init` then builds the
three players, lets the acceptor read a record, compares its instance with the one the state
machine reports, and numbers the proposer after the accepted proposal. `recover` is the part of it
before the main loop is started; `init` is the whole, in which the loop takes no step.
-/

namespace Paxosme

/-- `AcceptorState::Init`. -/
def AcceptorState.init (state : AcceptorState) (entry : PaxosLogEntry) : AcceptorState :=
  let state := state.setAcceptedValue entry.acceptedValue
  let state := state.setAcceptedProposal entry.acceptedProposalId entry.acceptedNodeId
  state.setPromisedProposal entry.promisedProposalId entry.promisedNodeId

/-- `ProposerState::Init`. -/
def ProposerState.init (state : ProposerState) (initProposalId : ProposalId) : ProposerState :=
  { state with myProposalId := initProposalId }

/-- `PaxAcceptor::Init` — the node and the instance id it returns. The argument of `ReadState`
is `-1`, the largest instance id. -/
def PaxAcceptor.init (node : Node) : Node × InstanceId :=
  let paxosState := node.readState (-1)
  ({ node with acceptor := node.acceptor.init paxosState }, paxosState.instanceId)

/-- `PaxProposer::Init`. -/
def PaxProposer.init (node : Node) (proposalId : ProposalId) : Node :=
  withProposer node
    { node.proposer with proposerState := node.proposer.proposerState.init proposalId }

/-- `PaxLearner::Init`. -/
def PaxLearner.init (node : Node) : Node :=
  node.publish .shallILearn .shallLearn shallLearnDelay

namespace PaxController

/-- The loop of `PaxController::PushSMByState` from one instance on, for a number of rounds. -/
def executeStored (node : Node) (instanceId : InstanceId) : Nat → Node
  | 0 => node
  | rounds + 1 =>
    let node := node.record (.execute instanceId (node.readState instanceId).acceptedValue)
    executeStored node (instanceId + 1) rounds

/-- `PaxController::PushSMByState`, given the instance id of the state machine. -/
def pushSMByState (node : Node) (instanceInSM targetInstanceId : InstanceId) : Node :=
  executeStored node instanceInSM (targetInstanceId.toNat - instanceInSM.toNat)

/-- `PaxController::Init` on a controller as it is constructed, given the instance id of the
state machine, up to the start of the main loop. Between the two comparisons `instance_id_` is not
assigned. -/
def recover (node : Node) (instanceInSM : InstanceId) : Node :=
  let (node, instanceInState) := PaxAcceptor.init node
  let node := if instanceInSM + 1 < instanceInState then
      { pushSMByState node instanceInSM instanceInState with instanceId := instanceInState }
    else node
  if instanceInState < instanceInSM then { node with instanceId := instanceInSM + 1 } else node

/-- `PaxController::Init`, with nothing between its steps. -/
def init (node : Node) (instanceInSM : InstanceId) : Node :=
  let node := recover node instanceInSM
  PaxLearner.init (PaxProposer.init node (node.acceptor.acceptedProposalId + 1))

/-- A process that starts on the log of a node: the players are new, and `instance_id_` holds
whatever the memory held. The calls made before stay on record. -/
def reborn (node : Node) (memory : InstanceId) : Node :=
  { Node.fresh node.options memory with storage := node.storage, calls := node.calls }

/-- A crash and the restart after it. -/
def restart (node : Node) (instanceInSM memory : InstanceId) : Node :=
  init (reborn node memory) instanceInSM

/-- The executions of some instances in ascending order, each with the value accepted in the
record of the instance. -/
def storedExecutions (node : Node) (first : InstanceId) (count : Nat) : List Call :=
  (List.range count).map fun offset =>
    .execute (first + UInt64.ofNat offset)
      (node.readState (first + UInt64.ofNat offset)).acceptedValue

/-- The execution of the first instance, and then those of the others. -/
theorem storedExecutions_succ (node : Node) (first : InstanceId) (count : Nat) :
    storedExecutions node first (count + 1) =
      .execute first (node.readState first).acceptedValue ::
        storedExecutions node (first + 1) count := by
  have shifted (offset : Nat) :
      first + UInt64.ofNat (offset + 1) = first + 1 + UInt64.ofNat offset := by
    rw [UInt64.ofNat_add, UInt64.add_comm (UInt64.ofNat offset), ← UInt64.add_assoc]
    rfl
  have zero : first + UInt64.ofNat 0 = first := UInt64.add_zero first
  simp only [storedExecutions, List.range_succ_eq_map, List.map_cons, List.map_map,
    Function.comp_def, Nat.succ_eq_add_one, shifted, zero]

/-- What `PushSMByState` leaves is the node with executions among its calls. -/
theorem executeStored_eq (node : Node) (instanceId : InstanceId) (rounds : Nat) :
    executeStored node instanceId rounds =
      { node with calls := node.calls ++ storedExecutions node instanceId rounds } := by
  induction rounds generalizing node instanceId with
  | zero => exact congrArg (fun calls => { node with calls }) (List.append_nil _).symm
  | succ rounds ih =>
    rw [executeStored, ih, storedExecutions_succ]
    simp [Node.record, storedExecutions, Node.readState]

/-- What the acceptor holds after a restart: what `AcceptorState::Init` makes of the record
under the largest instance id. -/
def recovered (storage : PaxStore) : AcceptorState :=
  AcceptorState.init {} ((storage.readLog (-1)).getD {})

/-- What `PaxController::Init` has done when it starts the main loop: the players are new up to the
recovered acceptor, the log is kept, and the calls added are executions. -/
theorem recover_eq (node : Node) (instanceInSM memory : InstanceId) :
    ∃ instanceId executed, recover (reborn node memory) instanceInSM =
        { options := node.options
          instanceId
          acceptor := recovered node.storage
          storage := node.storage
          calls := node.calls ++ executed } ∧
      ∀ call ∈ executed, ∃ executedId value, call = .execute executedId value := by
  have acceptor : (reborn node memory).acceptor.init ((reborn node memory).readState (-1)) =
      recovered node.storage := rfl
  simp only [recover, PaxAcceptor.init, acceptor]
  by_cases ahead : instanceInSM + 1 < ((reborn node memory).readState (-1)).instanceId
  · rw [if_pos ahead]
    have executes (call : Call) (member : call ∈ storedExecutions
        { reborn node memory with acceptor := recovered node.storage } instanceInSM
        (((reborn node memory).readState (-1)).instanceId.toNat - instanceInSM.toNat)) :
        ∃ executedId value, call = .execute executedId value := by
      obtain ⟨offset, _, rfl⟩ := List.mem_map.mp member
      exact ⟨_, _, rfl⟩
    rw [pushSMByState, executeStored_eq]
    split
    · exact ⟨_, _, rfl, executes⟩
    · exact ⟨_, _, rfl, executes⟩
  · rw [if_neg ahead]
    split
    · exact ⟨instanceInSM + 1, [], by simp [reborn, Node.fresh], by simp⟩
    · exact ⟨memory, [], by simp [reborn, Node.fresh], by simp⟩

/-- **A restart.** The players are new up to the recovered acceptor and the number after its
accepted proposal; the log is kept, and the calls added are executions and the timer. -/
theorem restart_eq (node : Node) (instanceInSM memory : InstanceId) :
    ∃ instanceId executed, restart node instanceInSM memory =
        { options := node.options
          instanceId
          proposer := { proposerState :=
            { myProposalId := (recovered node.storage).acceptedProposalId + 1 } }
          acceptor := recovered node.storage
          storage := node.storage
          calls := node.calls ++ executed ++
            [.addEvent .shallILearn .shallLearn PaxLearner.shallLearnDelay] } ∧
      ∀ call ∈ executed, ∃ executedId value, call = .execute executedId value := by
  obtain ⟨instanceId, executed, same, executes⟩ := recover_eq node instanceInSM memory
  refine ⟨instanceId, executed, ?_, executes⟩
  rw [restart, init, same]
  rfl

end PaxController
end Paxosme
