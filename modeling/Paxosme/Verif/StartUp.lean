import Paxosme.Core.Recovery

/-!
# Starting up

`PaxController::Init` compares the instance id that the acceptor returns with the one that the
state machine reports. It assigns `instance_id_` only where the two are apart, it lets
`PushSMByState` start at the instance that the state machine has executed already, and it keeps
what the acceptor has loaded whichever instance the node resumes at.
-/

namespace Paxosme
namespace StartUp

open PaxController

/-- The instance id that `acceptor_->Init` returns. -/
def instanceInState (node : Node) : InstanceId := (node.readState (-1)).instanceId

/-- Some instances in ascending order. -/
def instancesFrom (first : InstanceId) (count : Nat) : List InstanceId :=
  (List.range count).map fun offset => first + UInt64.ofNat offset

/-- A start-up on some memory puts the node at the right instance. -/
structure StartsAt (node : Node) (instanceInSM memory : InstanceId) : Prop where
  /-- The node resumes at the larger of the two instances. -/
  resumes : (restart node instanceInSM memory).instanceId.toNat =
    max (instanceInState node).toNat (instanceInSM.toNat + 1)
  /-- The instances that the state machine misses below it are executed. -/
  executes : Node.executed (Node.callsSince (reborn node memory)
      (restart node instanceInSM memory)) =
    instancesFrom (instanceInSM + 1)
      ((restart node instanceInSM memory).instanceId.toNat - (instanceInSM.toNat + 1))
  /-- The acceptor holds what belongs to this instance. -/
  acceptor : (restart node instanceInSM memory).acceptor =
    if instanceInState node < (restart node instanceInSM memory).instanceId then {}
    else recovered node.storage

/-- Every start-up does, whatever the memory holds where `instance_id_` is not assigned. -/
def StartsRight (node : Node) (instanceInSM : InstanceId) : Prop :=
  ∀ memory, StartsAt node instanceInSM memory

section Restart

variable (node : Node) (instanceInSM memory : InstanceId)

/-- The instances that `PushSMByState` executes. -/
theorem executed_storedExecutions (first : InstanceId) (count : Nat) :
    Node.executed (storedExecutions node first count) = instancesFrom first count := by
  rw [Node.executed, storedExecutions, List.filterMap_map, instancesFrom]
  exact congrFun List.filterMap_eq_map _

/-- What a start-up leaves, by the two comparisons of `PaxController::Init`. -/
theorem restart_cases :
    (restart node instanceInSM memory).instanceId =
        (if instanceInState node < instanceInSM then instanceInSM + 1
          else if instanceInSM + 1 < instanceInState node then instanceInState node
          else memory) ∧
      Node.executed (Node.callsSince (reborn node memory) (restart node instanceInSM memory)) =
        (if instanceInSM + 1 < instanceInState node then
          instancesFrom instanceInSM ((instanceInState node).toNat - instanceInSM.toNat)
          else []) := by
  have returned : ((reborn node memory).readState (-1)).instanceId = instanceInState node := rfl
  simp only [restart, init, recover, PaxAcceptor.init, returned]
  by_cases ahead : instanceInSM + 1 < instanceInState node
  · simp only [if_pos ahead, pushSMByState, executeStored_eq]
    split
    · refine ⟨rfl, ?_⟩
      rw [Node.callsSince_of_append (List.append_assoc ..), Node.executed_append,
        executed_storedExecutions]
      exact List.append_nil _
    · refine ⟨rfl, ?_⟩
      rw [Node.callsSince_of_append (List.append_assoc ..), Node.executed_append,
        executed_storedExecutions]
      exact List.append_nil _
  · simp only [if_neg ahead]
    split
    · exact ⟨rfl, by rw [Node.callsSince_of_append rfl]; rfl⟩
    · exact ⟨rfl, by rw [Node.callsSince_of_append rfl]; rfl⟩

/-- The acceptor holds what it has loaded, whatever the instance. -/
theorem restart_acceptor :
    (restart node instanceInSM memory).acceptor = recovered node.storage := by
  obtain ⟨instanceId, executed, same, _⟩ := restart_eq node instanceInSM memory
  rw [same]

end Restart

/-- **A start-up is right in one case**: the acceptor returns an instance that the state machine
has left behind, below the largest one, and has loaded nothing. -/
theorem startsRight_iff (node : Node) (instanceInSM : InstanceId) :
    StartsRight node instanceInSM ↔
      instanceInState node < instanceInSM ∧ instanceInSM ≠ 0xFFFFFFFFFFFFFFFF ∧
        recovered node.storage = {} := by
  have size := instanceInSM.toNat_lt
  have next : (instanceInSM + 1).toNat = (instanceInSM.toNat + 1) % 2 ^ 64 :=
    UInt64.toNat_add instanceInSM 1
  have top : instanceInSM ≠ 0xFFFFFFFFFFFFFFFF ↔ instanceInSM.toNat ≠ 2 ^ 64 - 1 :=
    not_congr UInt64.toNat_inj.symm
  constructor
  · intro right
    obtain ⟨resumes, executes, acceptor⟩ := right 0
    obtain ⟨instanceId, executed⟩ := restart_cases node instanceInSM 0
    rw [restart_acceptor] at acceptor
    rw [executed] at executes
    rw [instanceId] at resumes executes acceptor
    by_cases behind : instanceInState node < instanceInSM
    · rw [if_pos behind] at resumes acceptor
      have small : instanceInSM.toNat ≠ 2 ^ 64 - 1 := by
        intro largest
        have wrapped : (instanceInSM.toNat + 1) % 2 ^ 64 = 0 := by omega
        rw [next, wrapped] at resumes
        omega
      have above : instanceInState node < instanceInSM + 1 := by
        rw [WordOrder.lt_add_one_iff]
        exact ⟨le_of_lt behind, top.mpr small⟩
      rw [if_pos above] at acceptor
      exact ⟨behind, top.mpr small, acceptor⟩
    · rw [if_neg behind] at resumes executes
      have notBelow : instanceInSM.toNat ≤ (instanceInState node).toNat := by
        rw [UInt64.lt_iff_toNat_lt] at behind
        omega
      by_cases ahead : instanceInSM + 1 < instanceInState node
      · -- the instance that the state machine has executed last is executed again
        rw [if_pos ahead] at resumes
        rw [if_pos ahead, if_pos ahead] at executes
        have lengths := congrArg List.length executes
        simp only [instancesFrom, List.length_map, List.length_range] at lengths
        omega
      · -- `instance_id_` still holds what the memory held
        rw [if_neg ahead, UInt64.toNat_zero] at resumes
        omega
  · rintro ⟨behind, small, nothing⟩ memory
    obtain ⟨instanceId, executed⟩ := restart_cases node instanceInSM memory
    have below := UInt64.lt_iff_toNat_lt.mp behind
    have sum : (instanceInSM + 1).toNat = instanceInSM.toNat + 1 := by
      have bound := top.mp small
      rw [next]
      apply Nat.mod_eq_of_lt
      omega
    have notAhead : ¬ instanceInSM + 1 < instanceInState node := by
      rw [UInt64.lt_iff_toNat_lt, sum]
      omega
    rw [if_pos behind] at instanceId
    rw [if_neg notAhead] at executed
    refine ⟨?_, ?_, ?_⟩
    · rw [instanceId, sum]
      omega
    · rw [executed, instanceId, sum, Nat.sub_self]
      rfl
    · rw [restart_acceptor, nothing]
      split
      · rfl
      · rfl

/-- On an empty log, with no instance executed after the first, `instance_id_` is not
assigned. -/
theorem startsRight_unassigned :
    ¬ StartsRight (Node.fresh ⟨7, 1 / 2, 3, 0⟩ 0) 0 := by
  intro right
  exact absurd (right 0).resumes (by decide)

end StartUp
end Paxosme
