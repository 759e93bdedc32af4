import Paxosme.Verif.AcceptorRuns

/-!
# Promises

What a promise binds an acceptor to, and what it leaves open. The promised pair never falls,
a refused request leaves the state and the log alone, and an accept request below a granted
prepare request is refused. In the other direction the comparison is strict for both kinds
of request: of the accept requests that the promises allow, the one that carries the
promised pair itself is refused.
-/

namespace Paxosme
namespace PaxAcceptor

open WordOrder

/-- No request granted earlier in the instance has a pair strictly above the message's. -/
def NoGreaterGranted (node : Node) (messages : List PaxMessage) (message : PaxMessage) : Prop :=
  ∀ granted ∈ grantedIn (newInstance node) messages, ¬ requestPair message < requestPair granted

/-- An accept request that the promises of an instance allow is not rejected. -/
def AcceptsAllowed (node : Node) (messages : List PaxMessage) (message : PaxMessage) : Prop :=
  NoGreaterGranted node messages message → ¬ Rejects (run (newInstance node) messages) message

/-- Nothing greater was granted exactly when the promised pair is not above the message's. -/
theorem noGreaterGranted_iff (node : Node) (messages : List PaxMessage) (message : PaxMessage) :
    NoGreaterGranted node messages message ↔
      promisedPair (run (newInstance node) messages).acceptor ≤ requestPair message := by
  rw [NoGreaterGranted, grantedIn_eq_taken, promisedPair_run, promisedPair_newInstance]
  constructor
  · intro bounded
    refine HighWater.mark_le_of_taken _ _ _ _ (zero_le_pair _) fun granted kept => ?_
    exact not_lt.mp (bounded granted kept)
  · intro below granted kept
    have offered := (HighWater.taken_sublist requestPair _ _).subset kept
    exact not_lt.mpr ((HighWater.key_le_mark requestPair _ _ granted offered).trans below)

/-- An accept request is treated as the promises allow exactly when its pair is not the pair
promised at that moment, the pair of zeros where nothing was granted. -/
theorem acceptsAllowed_iff (node : Node) (messages : List PaxMessage) (message : PaxMessage)
    (accept : message.messageType = .acceptBroadcast) :
    AcceptsAllowed node messages message ↔
      requestPair message ≠ promisedPair (run (newInstance node) messages).acceptor := by
  have request : IsRequest message := .inr accept
  rw [AcceptsAllowed, noGreaterGranted_iff, rejects_iff]
  simp only [request, true_and, not_not]
  constructor
  · intro allowed same
    exact absurd (allowed same.ge) (not_lt.mpr same.le)
  · intro apart low
    exact lt_of_le_of_ne low apart.symm

/-- The options of node seven in a cluster of three. -/
def sampleOptions : PaxosOptions := ⟨7, 1 / 2, 3, 0⟩

/-- A prepare request numbered one from node seven. -/
def samplePrepare : PaxMessage :=
  { PaxMessage.new 7 .proposeBroadcast with proposalId := 1, proposingNodeId := 7 }

/-- The accept request of the same round. -/
def sampleAccept : PaxMessage :=
  { PaxMessage.new 7 .acceptBroadcast with
    proposalId := 1, proposingNodeId := 7, proposedLogValue := [42] }

/-- After the prepare request of a round, the accept request of the round is rejected. -/
theorem acceptsAllowed_same_round :
    ¬ AcceptsAllowed (Node.fresh sampleOptions 0) [samplePrepare] sampleAccept := by
  intro allowed
  have nothingGreater : NoGreaterGranted (Node.fresh sampleOptions 0) [samplePrepare]
      sampleAccept := by
    unfold NoGreaterGranted
    decide
  exact allowed nothingGreater (by decide)

/-- An accept request of a later round is treated as the promises allow. -/
theorem acceptsAllowed_later_round :
    AcceptsAllowed (Node.fresh sampleOptions 0) [samplePrepare]
      { sampleAccept with proposalId := 2 } :=
  (acceptsAllowed_iff _ _ _ rfl).mpr (by decide)

/-- A rejected message leaves the acceptor and the log as they were. -/
theorem rejects_unchanged (node : Node) (message : PaxMessage) (rejected : Rejects node message) :
    (handleMessage node message).acceptor = node.acceptor ∧
      (handleMessage node message).storage = node.storage := by
  obtain ⟨request, below⟩ := (rejects_iff node message).mp rejected
  rw [handleMessage_refused node message request below]
  exact ⟨rfl, rfl⟩

/-- The promised pair does not fall in a run. -/
theorem promisedPair_le_run (node : Node) (messages : List PaxMessage) :
    promisedPair node.acceptor ≤ promisedPair (run node messages).acceptor := by
  rw [promisedPair_run]
  exact HighWater.start_le_mark _ _ _

/-- A granted request binds the rest of the run to its pair. -/
theorem requestPair_le_run (node : Node) (granted : PaxMessage) (later : List PaxMessage)
    (grant : Grants node granted) :
    requestPair granted ≤ promisedPair (run node (granted :: later)).acceptor := by
  obtain ⟨request, above⟩ := (grants_iff node granted).mp grant
  have moved : promisedPair (handleMessage node granted).acceptor = requestPair granted := by
    rw [promisedPair_handleMessage, if_pos request, HighWater.offer, if_pos above]
  rw [run_cons, ← moved]
  exact promisedPair_le_run _ later

/-- What an acceptor that has handled `messages` keeps while it handles `later`. -/
structure KeepsPromises (node : Node) (messages later : List PaxMessage) : Prop where
  /-- The promised pair never decreases. -/
  monotone : promisedPair (run node messages).acceptor ≤
    promisedPair (run node (messages ++ later)).acceptor
  /-- After a granted prepare request no smaller accept request is accepted. -/
  binding : ∀ prepare accept : PaxMessage, prepare.messageType = .proposeBroadcast →
    accept.messageType = .acceptBroadcast → Grants (run node messages) prepare →
      requestPair accept < requestPair prepare →
        ¬ Grants (run node (messages ++ prepare :: later)) accept
  /-- A rejected message changes neither the acceptor's state nor the log. -/
  refusal : ∀ message : PaxMessage, Rejects (run node messages) message →
    (run node (messages ++ [message])).acceptor = (run node messages).acceptor ∧
      (run node (messages ++ [message])).storage = (run node messages).storage

/-- **An acceptor keeps its promises** in every run, from every state. -/
theorem keepsPromises (node : Node) (messages later : List PaxMessage) :
    KeepsPromises node messages later where
  monotone := by
    rw [run_append]
    exact promisedPair_le_run _ later
  binding prepare accept _ _ granted smaller grant := by
    rw [run_append] at grant
    have bound := requestPair_le_run _ prepare later granted
    obtain ⟨_, above⟩ := (grants_iff _ accept).mp grant
    exact absurd (bound.trans_lt above) (lt_asymm smaller)
  refusal message rejected := by
    rw [run_append, run_cons, run_nil]
    exact rejects_unchanged _ message rejected

end PaxAcceptor
end Paxosme
