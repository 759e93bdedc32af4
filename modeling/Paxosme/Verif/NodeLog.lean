import Paxosme.Verif.NodeInvariant
import Paxosme.Verif.NumberReuse

/-!
# The log of a node

Whatever happens to a node, the log that it leaves is the one before with the records written that
the calls made in between name, in their order. So the calls of a node say what has to be under it,
and a log that performs them can take the place of the one that the players keep.
-/

namespace Paxosme

/-- `WriteLog` of some records, one after the other. -/
def PaxStore.writeAll (storage : PaxStore) (entries : List PaxosLogEntry) : PaxStore :=
  entries.foldl PaxStore.writeLog storage

/-- The log of a later state is the one of an earlier state with the records that were written in
between. -/
def Logs (before after : Node) : Prop :=
  ∃ later, after.calls = before.calls ++ later ∧
    after.storage = before.storage.writeAll (Node.written later)

section Logging

variable {first second third : Node}

/-- Calls that write nothing keep the log. -/
theorem logs_of_storage {later : List Call} (appended : second.calls = first.calls ++ later)
    (none : Node.written later = []) (storage : second.storage = first.storage) :
    Logs first second :=
  ⟨later, appended, by rw [none, storage]; rfl⟩

/-- No call is taken back. -/
theorem Logs.grows (logs : Logs first second) : first.calls <+: second.calls := by
  obtain ⟨later, appended, _⟩ := logs
  exact ⟨later, appended.symm⟩

/-- A step without calls keeps the log. -/
theorem logs_of_eq (calls : second.calls = first.calls) (storage : second.storage = first.storage) :
    Logs first second :=
  logs_of_storage (calls.trans (List.append_nil _).symm) rfl storage

/-- The records of two steps are written one after the other. -/
theorem Logs.trans (before : Logs first second) (after : Logs second third) : Logs first third := by
  obtain ⟨early, appended, storage⟩ := before
  obtain ⟨late, appended', storage'⟩ := after
  refine ⟨early ++ late, by rw [appended', appended, List.append_assoc], ?_⟩
  rw [storage', storage, Node.written_append, PaxStore.writeAll, PaxStore.writeAll,
    PaxStore.writeAll, List.foldl_append]

/-- A call that is no write keeps the log. -/
theorem logs_record (node : Node) (call : Call) (none : Node.written [call] = []) :
    Logs node (node.record call) :=
  logs_of_storage rfl none rfl

variable (node : Node) (message : PaxMessage)

/-- Learning from others writes what it learns. -/
theorem logs_learnFromOthers : Logs node (PaxLearner.learnFromOthers node message) := by
  by_cases current : message.instanceId = node.instanceId
  · rw [PaxLearner.learnFromOthers_current node message current]
    exact ⟨_, rfl, rfl⟩
  · rw [PaxLearner.learnFromOthers_outdated node message current]
    exact logs_record node _ rfl

/-- A published value is written when it is learned. -/
theorem logs_handleOthersPublish : Logs node (PaxLearner.handleOthersPublish node message) := by
  by_cases passes : PaxLearner.PassesPublish node message
  · rw [PaxLearner.handleOthersPublish_passed node message passes]
    exact logs_learnFromOthers node message
  · rw [PaxLearner.handleOthersPublish_stopped node message passes]
    exact logs_of_eq rfl rfl

/-- What the node learns from itself is in the log already. -/
theorem logs_handleSenderPublish : Logs node (PaxLearner.handleSenderPublish node message) := by
  have learned : Logs node (PaxLearner.learnFromSelf node message) := by
    by_cases passes : PaxLearner.PassesSelf node message
    · rw [PaxLearner.learnFromSelf_passed node message passes]
      exact ⟨_, rfl, rfl⟩
    · rw [PaxLearner.learnFromSelf_stopped node message passes]
      exact logs_of_eq rfl rfl
  exact learned.trans (logs_record _ _ rfl)

/-- The learner writes what it learns from others. -/
theorem logs_learner : Logs node (PaxLearner.handleMessage node message) := by
  by_cases carries : PaxLearner.CarriesValue message
  · rcases carries with chosen | sent | broadcast | sync
    · simp only [PaxLearner.handleMessage, chosen]
      exact (logs_handleSenderPublish node message).trans (logs_handleOthersPublish _ message)
    · simp only [PaxLearner.handleMessage, sent]
      exact logs_handleOthersPublish node message
    · simp only [PaxLearner.handleMessage, broadcast]
      exact logs_handleOthersPublish node message
    · simp only [PaxLearner.handleMessage, sync]
      exact (logs_learnFromOthers node message).trans (logs_record _ _ rfl)
  · obtain ⟨_, storage, _, sent, appended, sends⟩ :=
      PaxLearner.learnsNothing_handleMessage node message carries
    refine logs_of_storage appended ?_ storage
    refine List.filterMap_eq_nil_iff.mpr fun call member => ?_
    obtain ⟨nodeId, other, rfl⟩ := sends call member
    rfl

/-- The acceptor writes a record for what it grants. -/
theorem logs_acceptor : Logs node (PaxAcceptor.handleMessage node message) := by
  by_cases request : PaxAcceptor.IsRequest message
  · by_cases above : PaxAcceptor.promisedPair node.acceptor < PaxAcceptor.requestPair message
    · rw [PaxAcceptor.handleMessage_granted node message request above]
      exact ⟨_, rfl, rfl⟩
    · rw [PaxAcceptor.handleMessage_refused node message request above]
      exact ⟨_, rfl, rfl⟩
  · rw [PaxAcceptor.handleMessage_other node message request]
    exact logs_of_eq rfl rfl

/-- `Propose` writes nothing. -/
theorem logs_propose : Logs node (PaxProposer.propose node) := by
  rw [PaxProposer.propose_eq]
  exact ⟨_, rfl, rfl⟩

/-- Arming a round again writes nothing. -/
theorem written_relaunch (counter : ProposalCounter) (options : PaxosOptions)
    (eventType : EventType) (delay : Millisec) :
    Node.written (PaxProposer.relaunch counter options eventType delay message) = [] := by
  unfold PaxProposer.relaunch
  split
  · rfl
  · rfl

/-- **Every message writes to the log what its calls write.** -/
theorem logs_kept (origin : Node) : NodeInvariant (Logs origin) fun _ => True where
  acceptor node message logs _ := logs.trans (logs_acceptor node message)
  learner node message logs _ := logs.trans (logs_learner node message)
  promise node message logs _ passes := by
    by_cases majority : PaxProposer.ObservesMajority node message
    · rw [PaxProposer.handleProposeAck_majority node message passes majority]
      exact logs.trans (logs_propose (PaxProposer.withProposer node _))
    · rw [PaxProposer.handleProposeAck_counted node message passes majority]
      exact logs.trans (logs_of_storage rfl (written_relaunch ..) rfl)
  counted _ _ logs _ _ := logs.trans (logs_of_storage rfl (written_relaunch ..) rfl)
  majority _ _ logs _ _ := ⟨logs.trans (logs_of_eq rfl rfl), trivial⟩
  finish node logs := by
    cases blocked : node.blocked with
    | true =>
      rw [PaxController.finish_blocked node blocked]
      exact logs
    | false =>
      cases learned : node.learner.learnerState.learned with
      | true =>
        rw [PaxController.finish_learned node blocked learned]
        exact logs.trans ⟨_, rfl, rfl⟩
      | false =>
        rw [PaxController.finish_unlearned node learned]
        exact logs

/-- A new value is not written. -/
theorem logs_newValue (flushed : Option LogValue) (timeout : Millisec) :
    Logs node (PaxProposer.newValue node flushed timeout) := by
  cases flushed with
  | none => exact logs_of_eq rfl rfl
  | some value =>
    have flush := logs_record node (.flush node.instanceId value) rfl
    have timer (before : Node) := logs_record before
      (.addEvent .newValueTimeout .newValueTimeoutCallback timeout) rfl
    exact flush.trans ((timer (PaxProposer.withProposer _ _)).trans (logs_propose _))

/-- A timer writes nothing. -/
theorem logs_fire (callback : TimerCallback) (free : node.blocked = false) :
    Logs node (callback.fire node) := by
  cases callback with
  | proposeTimeoutCallback instanceId =>
    simp only [TimerCallback.fire, PaxProposer.proposeTimeoutCallback]
    split
    · exact logs_of_eq rfl rfl
    · exact logs_propose node
  | newValueTimeoutCallback =>
    simp only [TimerCallback.fire, PaxProposer.newValueTimeoutCallback]
    split
    · exact logs_of_eq rfl rfl
    · have first := logs_record node (.removeEvent .proposeTimeout) rfl
      have second := logs_record (node.withdraw .proposeTimeout) (.removeEvent .acceptTimeout) rfl
      exact first.trans (second.trans (logs_record (PaxProposer.withProposer _ _) _ rfl))
  | shallLearn =>
    rw [TimerCallback.fire]
    cases held : node.learner.mutexFollow with
    | false =>
      rw [PaxLearner.shallLearn_free node free held]
      exact ⟨_, rfl, rfl⟩
    | true =>
      rw [PaxLearner.shallLearn_held node held]
      exact ⟨_, rfl, rfl⟩

/-- The sending thread writes nothing. -/
theorem logs_sendingStep (tooSlow : Bool) : Logs node (PaxLearner.sendingStep node tooSlow) := by
  have storage : (PaxLearner.sendingStep node tooSlow).storage = node.storage := by
    unfold PaxLearner.sendingStep
    cases node.learner.sendingPoint with
    | call | clear => rfl
    | _ =>
      dsimp only
      repeat' split
      all_goals rfl
  rcases PaxLearner.sendingStep_calls node tooSlow with
    silent | ⟨_, receiver, message, _, _, _, _, sends, _⟩
  · exact logs_of_eq silent storage
  · exact logs_of_storage sends rfl storage

/-- The calls of a restart write nothing. -/
theorem written_restart (instanceInSM memory : InstanceId) :
    ∃ later, (PaxController.restart node instanceInSM memory).calls = node.calls ++ later ∧
      Node.written later = [] ∧
      (PaxController.restart node instanceInSM memory).storage = node.storage := by
  obtain ⟨_, executed, same, executes⟩ := PaxController.restart_eq node instanceInSM memory
  have none : Node.written executed = [] :=
    List.filterMap_eq_nil_iff.mpr fun call member => by
      obtain ⟨_, _, rfl⟩ := executes call member
      rfl
  rw [same, List.append_assoc]
  refine ⟨_, rfl, ?_, rfl⟩
  rw [Node.written_append, none]
  rfl

/-- A restart keeps the log. -/
theorem logs_restart (instanceInSM memory : InstanceId) :
    Logs node (PaxController.restart node instanceInSM memory) := by
  obtain ⟨later, appended, none, storage⟩ := written_restart node instanceInSM memory
  exact logs_of_storage appended none storage

end Logging

/-- Whatever happens to a node, its log is the one before with the records written. -/
theorem NumberReuse.logs_step (node : Node) (event : NumberReuse.Event) :
    Logs node (NumberReuse.step node event) := by
  have same : Logs node node := logs_of_eq rfl rfl
  cases event with
  | receive routing message =>
    exact Cluster.onMainThread_cases _ same fun _ =>
      (logs_kept node).handleMessage same trivial routing
  | act activity =>
    cases activity with
    | newValue flushed timeout =>
      exact Cluster.onMainThread_cases (PaxProposer.newValue · flushed timeout) same fun _ =>
        logs_newValue node flushed timeout
    | timer callback =>
      exact Cluster.onMainThread_cases callback.fire same fun free => logs_fire node callback free
    | sending tooSlow => exact logs_sendingStep node tooSlow
  | restart instanceInSM memory => exact logs_restart node instanceInSM memory

end Paxosme
