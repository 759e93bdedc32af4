import Paxosme.Verif.ProposerKnowledge
import Paxosme.Core.Controller

/-!
# A proposer only prepares

No function of the source calls `Accept`, so no step of a proposer enters the accept phase.
`Prepares` states all that a step outside that phase can do: the other players keep their
states, and among the calls it makes the only messages are prepare requests.
-/

namespace Paxosme
namespace PaxProposer

/-- A call that a proposer makes outside the accept phase. -/
def PrepareCall (instanceId : InstanceId) : Call → Prop
  | .broadcast message =>
    message.messageType = .proposeBroadcast ∧ message.instanceId = instanceId
  | .addEvent _ _ _ | .removeEvent _ | .flush _ _ | .writeResult _ _ _ => True
  | .send _ _ | .writeLog _ | .execute _ _ | .learnNew _ _ _ _ => False

/-- A step of the proposer that does not lead to the accept phase. -/
structure Prepares (before after : Node) : Prop where
  /-- The accept phase is not entered. -/
  status : after.proposer.status ≠ .kAccept
  /-- The proposer's part and the calls are all that moves. -/
  frame : { after with proposer := before.proposer, calls := before.calls } = before
  /-- The calls made. -/
  calls : ∃ later, after.calls = before.calls ++ later ∧
    ∀ call ∈ later, PrepareCall before.instanceId call

/-- A step that does nothing. -/
theorem prepares_refl (node : Node) (status : node.proposer.status ≠ .kAccept) :
    Prepares node node :=
  ⟨status, rfl, [], (List.append_nil _).symm, by simp⟩

/-- The instance stays. -/
theorem Prepares.instanceId {before after : Node} (step : Prepares before after) :
    after.instanceId = before.instanceId := by
  have moved := congrArg Node.instanceId step.frame
  exact moved

/-- Two steps in a row. -/
theorem Prepares.trans {before middle after : Node} (first : Prepares before middle)
    (second : Prepares middle after) : Prepares before after := by
  have kept := first.instanceId
  obtain ⟨_, frame, early, earlyCalls, earlyOk⟩ := first
  obtain ⟨status, frame', late, lateCalls, lateOk⟩ := second
  refine ⟨status, ?_, early ++ late, ?_, ?_⟩
  · calc { after with proposer := before.proposer, calls := before.calls }
        = { { after with proposer := middle.proposer, calls := middle.calls } with
            proposer := before.proposer, calls := before.calls } := rfl
      _ = { middle with proposer := before.proposer, calls := before.calls } := by rw [frame']
      _ = before := frame
  · rw [lateCalls, earlyCalls, List.append_assoc]
  · intro call member
    rcases List.mem_append.mp member with member | member
    · exact earlyOk call member
    · exact kept ▸ lateOk call member

/-- A change of the proposer's part with one call. -/
theorem prepares_record (node : Node) (proposer : PaxProposer) (call : Call)
    (status : proposer.status ≠ .kAccept) (ok : PrepareCall node.instanceId call) :
    Prepares node ((withProposer node proposer).record call) :=
  ⟨status, rfl, [call], rfl, by simpa using ok⟩

/-- `Propose` prepares, from any phase. -/
theorem propose_prepares (node : Node) : Prepares node (propose node) := by
  rw [propose_eq]
  refine ⟨nofun, rfl, _, rfl, ?_⟩
  intro call member
  rcases List.mem_pair.mp member with rfl | rfl
  · trivial
  · exact ⟨rfl, rfl⟩

/-- `NewValue` prepares. -/
theorem newValue_prepares (node : Node) (flushed : Option LogValue) (timeout : Millisec)
    (status : node.proposer.status ≠ .kAccept) :
    Prepares node (newValue node flushed timeout) := by
  cases flushed with
  | none => exact prepares_refl node status
  | some value =>
    let state := node.proposer.proposerState
    let named := if state.logValue.isEmpty then state.setLogValue value else state
    have flush := prepares_record node node.proposer (.flush node.instanceId value) status trivial
    have timer := prepares_record (node.record (.flush node.instanceId value))
      { node.proposer with proposerState := named }
      (.addEvent .newValueTimeout .newValueTimeoutCallback timeout) status trivial
    exact (flush.trans timer).trans (propose_prepares _)

/-- The timer of a round prepares again. -/
theorem proposeTimeoutCallback_prepares (node : Node) (instanceId : InstanceId)
    (status : node.proposer.status ≠ .kAccept) :
    Prepares node (proposeTimeoutCallback node instanceId) := by
  unfold proposeTimeoutCallback
  split
  · exact prepares_refl node status
  · exact propose_prepares node

/-- The timer of a value gives the round up. -/
theorem newValueTimeoutCallback_prepares (node : Node)
    (status : node.proposer.status ≠ .kAccept) :
    Prepares node (newValueTimeoutCallback node) := by
  unfold newValueTimeoutCallback
  split
  · exact prepares_refl node status
  · refine ⟨nofun, rfl, [.removeEvent .proposeTimeout, .removeEvent .acceptTimeout,
      .writeResult [] node.instanceId .valueTimeout], ?_, ?_⟩
    · simp [Node.withdraw, Node.record, withProposer]
    · intro call member
      simp only [List.mem_cons, List.not_mem_nil, or_false] at member
      rcases member with rfl | rfl | rfl
      · trivial
      · trivial
      · trivial

/-- A promise acknowledgement prepares, also where it shows a majority. -/
theorem handleProposeAck_prepares (node : Node) (message : PaxMessage)
    (status : node.proposer.status ≠ .kAccept) :
    Prepares node (handleProposeAck node message) := by
  by_cases discarded : Discards .kPropose node message
  · rw [handleProposeAck_discarded node message discarded]
    exact prepares_refl node status
  · by_cases majority : ObservesMajority node message
    · rw [handleProposeAck_majority node message discarded majority]
      have counting : Prepares node (withProposer node (countProposeAck node message)) := by
        refine ⟨?_, rfl, [], (List.append_nil _).symm, by simp⟩
        exact countProposeAck_status node message ▸ status
      exact counting.trans (propose_prepares _)
    · rw [handleProposeAck_counted node message discarded majority]
      refine ⟨?_, rfl, _, rfl, ?_⟩
      · exact countProposeAck_status node message ▸ status
      · intro call member
        unfold relaunch at member
        split at member
        · rw [List.mem_singleton.mp member]
          trivial
        · simp at member

/-- Whatever message arrives outside the accept phase, the proposer prepares. -/
theorem handleMessage_prepares (process : Node → PaxMessage → Node) (node : Node)
    (message : PaxMessage) (status : node.proposer.status ≠ .kAccept) :
    Prepares node (handleMessage process node message) := by
  unfold handleMessage
  split
  · exact handleProposeAck_prepares node message status
  · rw [handleAcceptAck_discarded process node message (.inl status)]
    exact prepares_refl node status
  · exact prepares_refl node status

end PaxProposer
end Paxosme
