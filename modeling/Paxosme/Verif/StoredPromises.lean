import Paxosme.Lib.Runs
import Paxosme.Core.Cluster
import Paxosme.Verif.AcceptorRecovery

/-!
# Promises in the log

The acceptor and the learner of a node write records under one key, the instance. The acceptor
fills the promised pair; `LearnNew` does not, so the record of a value learned from another node
replaces the promise by a pair of zeros. The stored promise keeps up with the acceptor exactly
as long as no value is persisted after a request has been granted.
-/

namespace Paxosme
namespace StoredPromises

open WordOrder PaxAcceptor

/-- A message and the player that handles it. -/
inductive Handled where
  | acceptor (message : PaxMessage)
  | learner (message : PaxMessage)
  deriving DecidableEq

/-- The main thread lets a player handle a message. -/
def handle (node : Node) : Handled → Node
  | .acceptor message => Cluster.onMainThread (PaxAcceptor.handleMessage · message) node
  | .learner message => Cluster.onMainThread (PaxLearner.handleMessage · message) node

/-- A node at the start of its instance: acceptor and learner are reset, and the log has no
record of the instance. -/
def instanceStart (node : Node) : Node :=
  { PaxLearner.newInstance (PaxAcceptor.newInstance node) with
    storage := Function.update node.storage (PaxStore.key node.instanceId) none }

/-- The promised pair in the stored record of an instance. -/
def storedPair (node : Node) (instanceId : InstanceId) : WordPair :=
  pair (node.readState instanceId).promisedProposalId (node.readState instanceId).promisedNodeId

/-- An acceptor restarted from the record of the current instance. -/
def restarted (node : Node) : Node :=
  { node with acceptor := AcceptorState.init {} (node.readState node.instanceId) }

/-- The log writes of an instance keep what has been promised. -/
structure KeepsStored (node : Node) (inputs : List Handled) : Prop where
  /-- The stored promise of no instance decreases. -/
  monotone : ∀ instanceId earlier later rest, inputs = earlier ++ later ++ rest →
    storedPair (Runs.run handle (instanceStart node) earlier) instanceId ≤
      storedPair (Runs.run handle (instanceStart node) (earlier ++ later)) instanceId
  /-- An acceptor restarted from the record refuses what a granted request rules out. -/
  binding : ∀ earlier granted later rest,
    inputs = earlier ++ .acceptor granted :: later ++ rest →
      (Runs.run handle (instanceStart node) earlier).blocked = false →
      Grants (Runs.run handle (instanceStart node) earlier) granted →
        ∀ message, requestPair message ≤ requestPair granted →
          ¬ Grants (restarted (Runs.run handle (instanceStart node)
            (earlier ++ .acceptor granted :: later))) message

/-- The learner persists a value: a synchronised value of the current instance, or a published
one that passes the guards. -/
def Persists (node : Node) (message : PaxMessage) : Prop :=
  PaxLearner.CarriesValue message ∧
    if message.messageType = .learnerValueSync then message.instanceId = node.instanceId
    else PaxLearner.PassesPublish node message

instance instDecidablePersists (node : Node) (message : PaxMessage) :
    Decidable (Persists node message) :=
  inferInstanceAs (Decidable (_ ∧ _))

/-- A value is persisted only while nothing has been promised. -/
def LearnsUnpromised (node : Node) : Handled → Prop
  | .acceptor _ => True
  | .learner message => node.blocked = false → Persists node message →
      promisedPair node.acceptor = pair 0 0

/-- In its instance, a node holds the promise that its log holds. -/
structure Synchronised (instanceId : InstanceId) (node : Node) : Prop where
  /-- The node is in the instance. -/
  current : node.instanceId = instanceId
  /-- The acceptor and the log hold one pair. -/
  stored : storedPair node instanceId = promisedPair node.acceptor

/-- A learner leaves the acceptor and the instance as they are. -/
theorem learner_besides (node : Node) (message : PaxMessage) :
    (PaxLearner.handleMessage node message).acceptor = node.acceptor ∧
      (PaxLearner.handleMessage node message).instanceId = node.instanceId := by
  have same := PaxLearner.besides_handleMessage node message
  simp only [PaxLearner.besides, Prod.mk.injEq] at same
  exact ⟨same.2.2.2, same.2.1⟩

/-- A published value is written to the log when it passes the guards, and not otherwise. -/
theorem handleOthersPublish_storage (node : Node) (message : PaxMessage) :
    (PaxLearner.handleOthersPublish node message).storage =
      if PaxLearner.PassesPublish node message then
        node.storage.writeLog (PaxLearner.learnedEntry message)
      else node.storage := by
  split
  · rename_i passes
    rw [PaxLearner.handleOthersPublish_passed node message passes,
      PaxLearner.learnFromOthers_current node message passes.1]
  · rename_i stopped
    rw [PaxLearner.handleOthersPublish_stopped node message stopped]

/-- Learning from the node's own acceptor leaves the log and the guards of a published value as
they are. -/
theorem handleSenderPublish_storage (node : Node) (message : PaxMessage) :
    (PaxLearner.handleSenderPublish node message).storage = node.storage ∧
      (PaxLearner.PassesPublish (PaxLearner.handleSenderPublish node message) message ↔
        PaxLearner.PassesPublish node message) := by
  have same := PaxLearner.besides_handleSenderPublish node message
  simp only [PaxLearner.besides, Prod.mk.injEq] at same
  obtain ⟨options, instanceId, _, acceptor⟩ := same
  refine ⟨?_, by simp only [PaxLearner.PassesPublish, Node.getNodeId, options, instanceId,
    acceptor]⟩
  by_cases passes : PaxLearner.PassesSelf node message
  · rw [PaxLearner.handleSenderPublish, PaxLearner.learnFromSelf_passed node message passes]
    rfl
  · rw [PaxLearner.handleSenderPublish, PaxLearner.learnFromSelf_stopped node message passes]
    rfl

/-- The log after a learner has handled a message. -/
theorem learner_storage (node : Node) (message : PaxMessage) :
    (PaxLearner.handleMessage node message).storage =
      if Persists node message then
        node.storage.writeLog (PaxLearner.learnedEntry message)
      else node.storage := by
  by_cases bare : PaxLearner.CarriesValue message
  · simp only [Persists, bare, true_and]
    rcases bare with chosen | sent | broadcast | sync
    · have passed := handleSenderPublish_storage node message
      simp only [PaxLearner.handleMessage, chosen, reduceCtorEq, if_false]
      rw [handleOthersPublish_storage, passed.1]
      simp only [passed.2]
    · simp only [PaxLearner.handleMessage, sent, reduceCtorEq, if_false]
      exact handleOthersPublish_storage node message
    · simp only [PaxLearner.handleMessage, broadcast, reduceCtorEq, if_false]
      exact handleOthersPublish_storage node message
    · simp only [PaxLearner.handleMessage, sync, if_true]
      by_cases current : message.instanceId = node.instanceId
      · rw [if_pos current, PaxLearner.handleSyncValue,
          PaxLearner.learnFromOthers_current node message current]
        rfl
      · rw [if_neg current, PaxLearner.handleSyncValue,
          PaxLearner.learnFromOthers_outdated node message current]
        rfl
  · rw [if_neg fun persists => bare persists.1]
    exact (PaxLearner.learnsNothing_handleMessage node message bare).storage

/-- A value that is persisted is of the current instance. -/
theorem Persists.current {node : Node} {message : PaxMessage}
    (persists : Persists node message) : message.instanceId = node.instanceId := by
  have guard := persists.2
  split at guard
  · exact guard
  · exact guard.1

/-- The record read after a write. -/
theorem readState_of_writeLog {before after : Node} {entry : PaxosLogEntry}
    (written : after.storage = before.storage.writeLog entry) (instanceId : InstanceId) :
    after.readState instanceId =
      if instanceId = entry.instanceId then entry else before.readState instanceId := by
  rw [Node.readState, Node.readState, written]
  split
  · rename_i same
    rw [same, PaxStore.readLog_writeLog]
    rfl
  · rename_i other
    rw [PaxStore.readLog_writeLog_of_ne _ _ _ other]

/-- The record of a granted request promises its pair. -/
theorem storedPair_granted (node : Node) (message : PaxMessage) (granted : Grants node message)
    (instanceId : InstanceId) :
    storedPair (PaxAcceptor.handleMessage node message) instanceId =
      if instanceId = node.instanceId then requestPair message
      else storedPair node instanceId := by
  obtain ⟨request, above⟩ := (grants_iff node message).mp granted
  have written : (PaxAcceptor.handleMessage node message).storage =
      node.storage.writeLog (grantedEntry node message) := by
    rw [handleMessage_granted node message request above]
  have named : (grantedEntry node message).instanceId = node.instanceId := by
    rw [grantedEntry, promisedEntry]
    split
    · rfl
    · rfl
  have pairs : pair (grantedEntry node message).promisedProposalId
      (grantedEntry node message).promisedNodeId = requestPair message := by
    rw [grantedEntry, promisedEntry]
    split
    · rfl
    · rfl
  rw [storedPair, readState_of_writeLog written, named]
  split
  · exact pairs
  · rfl

/-- The record of a persisted value promises the pair of zeros. -/
theorem storedPair_persisted (node : Node) (message : PaxMessage)
    (persists : Persists node message) (instanceId : InstanceId) :
    storedPair (PaxLearner.handleMessage node message) instanceId =
      if instanceId = node.instanceId then pair 0 0 else storedPair node instanceId := by
  have written := learner_storage node message
  rw [if_pos persists] at written
  have named : (PaxLearner.learnedEntry message).instanceId = node.instanceId :=
    persists.current
  rw [storedPair, readState_of_writeLog written, named]
  split
  · rfl
  · rfl

/-- While log and acceptor hold one pair, a step leaves every stored promise at least as high
exactly when it persists no value over a promise. -/
theorem storedPair_le_handle_iff {current : InstanceId} {node : Node}
    (same : Synchronised current node)
    (input : Handled) :
    storedPair node ≤ storedPair (handle node input) ↔ LearnsUnpromised node input := by
  cases blocked : node.blocked with
  | true =>
    cases input with
    | acceptor message =>
      rw [handle, Cluster.onMainThread_blocked _ node blocked]
      exact iff_of_true le_rfl trivial
    | learner message =>
      rw [handle, Cluster.onMainThread_blocked _ node blocked]
      exact iff_of_true le_rfl fun free => by simp [blocked] at free
  | false =>
    cases input with
    | acceptor message =>
      rw [handle, Cluster.onMainThread_free _ node blocked]
      refine iff_of_true (fun instanceId => ?_) trivial
      by_cases granted : Grants node message
      · rw [storedPair_granted node message granted]
        split
        · rename_i here
          have above := ((grants_iff node message).mp granted).2
          rw [here, same.current, same.stored]
          exact above.le
        · exact le_rfl
      · rw [storedPair, storedPair, Node.readState, Node.readState,
          (handleMessage_ungranted node message granted).2]
    | learner message =>
      rw [handle, Cluster.onMainThread_free _ node blocked]
      by_cases persists : Persists node message
      · constructor
        · intro kept _ _
          have here := kept node.instanceId
          rw [storedPair_persisted node message persists, if_pos rfl, same.current,
            same.stored] at here
          exact le_antisymm here (zero_le_pair _)
        · intro unpromised instanceId
          rw [storedPair_persisted node message persists]
          split
          · rename_i here
            rw [here, same.current, same.stored, unpromised blocked persists]
          · exact le_rfl
      · refine iff_of_true (fun instanceId => ?_) fun _ persisted => absurd persisted persists
        have kept := learner_storage node message
        rw [if_neg persists] at kept
        rw [storedPair, storedPair, Node.readState, Node.readState, kept]

/-- A step that persists no value over a promise keeps log and acceptor on one pair. -/
theorem Synchronised.handle {current : InstanceId} {node : Node}
    (same : Synchronised current node) (input : Handled)
    (unpromised : LearnsUnpromised node input) :
    Synchronised current (handle node input) := by
  cases blocked : node.blocked with
  | true =>
    cases input with
    | acceptor message =>
      rw [StoredPromises.handle, Cluster.onMainThread_blocked _ node blocked]
      exact same
    | learner message =>
      rw [StoredPromises.handle, Cluster.onMainThread_blocked _ node blocked]
      exact same
  | false =>
    cases input with
    | acceptor message =>
      rw [StoredPromises.handle, Cluster.onMainThread_free _ node blocked]
      refine ⟨(run_instanceId node [message]).trans same.current, ?_⟩
      by_cases granted : Grants node message
      · obtain ⟨request, above⟩ := (grants_iff node message).mp granted
        rw [storedPair_granted node message granted, if_pos same.current.symm,
          promisedPair_handleMessage, if_pos request, HighWater.offer, if_pos above]
      · rw [(handleMessage_ungranted node message granted).1, storedPair, Node.readState,
          (handleMessage_ungranted node message granted).2]
        exact same.stored
    | learner message =>
      rw [StoredPromises.handle, Cluster.onMainThread_free _ node blocked]
      obtain ⟨acceptor, instanceId⟩ := learner_besides node message
      refine ⟨instanceId.trans same.current, ?_⟩
      rw [acceptor]
      by_cases persists : Persists node message
      · rw [storedPair_persisted node message persists, if_pos same.current.symm,
          unpromised blocked persists]
      · have kept := learner_storage node message
        rw [if_neg persists] at kept
        rw [storedPair, Node.readState, kept]
        exact same.stored

/-- At its start, an instance has promised nothing in the log and in the acceptor. -/
theorem synchronised_instanceStart (node : Node) :
    Synchronised node.instanceId (instanceStart node) := by
  refine ⟨rfl, ?_⟩
  have absent : (instanceStart node).storage.readLog node.instanceId = none :=
    Function.update_self _ _ _
  rw [storedPair, Node.readState, absent]
  rfl

/-- In a run that persists no value over a promise, the acceptor restarted from the log at the
end refuses what any request granted in it rules out. -/
theorem restarted_refuses (node : Node) (earlier later : List Handled) (granted : PaxMessage)
    (along : Runs.Along handle LearnsUnpromised (instanceStart node)
      (earlier ++ .acceptor granted :: later))
    (free : (Runs.run handle (instanceStart node) earlier).blocked = false)
    (grant : Grants (Runs.run handle (instanceStart node) earlier) granted)
    (message : PaxMessage) (below : requestPair message ≤ requestPair granted) :
    ¬ Grants (restarted (Runs.run handle (instanceStart node)
      (earlier ++ .acceptor granted :: later))) message := by
  have keeps (state : Node) (input : Handled) (same : Synchronised node.instanceId state)
      (unpromised : LearnsUnpromised state input) :=
    same.handle input unpromised
  obtain ⟨before, after⟩ := (Runs.along_append _ earlier _).mp along
  have synchronised := before.invariant keeps (synchronised_instanceStart node)
  rw [Runs.run_append]
  generalize Runs.run handle (instanceStart node) earlier = state at *
  have atGrant : storedPair (handle state (.acceptor granted)) node.instanceId =
      requestPair granted := by
    rw [handle, Cluster.onMainThread_free _ state free, storedPair_granted state granted grant,
      if_pos synchronised.current.symm]
  have next := synchronised.handle (.acceptor granted) trivial
  have rising := (Runs.along_congr
    (fun state input same => storedPair_le_handle_iff same input) keeps _ later next).mpr after.2
  have kept := rising.le_run node.instanceId
  have final := after.2.invariant keeps next
  rw [atGrant] at kept
  rw [Runs.run_cons]
  intro grants
  have above := ((grants_iff _ message).mp grants).2
  have held : promisedPair (restarted (Runs.run handle (handle state (.acceptor granted))
      later)).acceptor = storedPair (Runs.run handle (handle state (.acceptor granted)) later)
        node.instanceId := by
    rw [← final.current]
    rfl
  rw [held] at above
  exact absurd (above.trans_le below) (not_lt.mpr kept)

/-- The log keeps the promises of an instance exactly in the runs in which no value is persisted
after a request has been granted. -/
theorem keepsStored_iff (node : Node) (inputs : List Handled) :
    KeepsStored node inputs ↔ Runs.Along handle LearnsUnpromised (instanceStart node) inputs := by
  have start := synchronised_instanceStart node
  have rising := Runs.along_congr
    (fun state input same => storedPair_le_handle_iff same input)
    (fun state input (same : Synchronised node.instanceId state) unpromised =>
      same.handle input unpromised) _ inputs start
  constructor
  · intro keeps
    refine rising.mp ((Runs.along_le_iff storedPair _ inputs).mpr ?_)
    intro earlier later rest split instanceId
    exact keeps.monotone instanceId earlier later rest split
  · intro along
    have bounded := (Runs.along_le_iff storedPair _ inputs).mp (rising.mpr along)
    constructor
    · intro instanceId earlier later rest split
      exact bounded earlier later rest split instanceId
    · intro earlier granted later rest split free grant message below
      rw [split] at along
      exact restarted_refuses node earlier later granted
        ((Runs.along_append _ _ rest).mp along).1 free grant message below

/-- A promise of node seven is lost when a value is learned. -/
theorem keepsStored_sync :
    ¬ KeepsStored (Node.fresh sampleOptions 0)
      [.acceptor samplePrepare,
        .learner { PaxMessage.new 8 .learnerValueSync with chosenValue := [42] }] := by
  intro keeps
  have kept := keeps.monotone 0 [.acceptor samplePrepare]
    [.learner { PaxMessage.new 8 .learnerValueSync with chosenValue := [42] }] [] rfl
  exact absurd kept (by decide)

end StoredPromises
end Paxosme
