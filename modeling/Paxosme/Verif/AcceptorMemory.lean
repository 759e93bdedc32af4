import Paxosme.Verif.AcceptorPromises

/-!
# What an acceptor remembers

The accepted triple of an acceptor is written by accept requests and read back by the replies
to prepare requests. `SetAcceptedProposal` stores the proposer in place of the number, so the
triple is the one last accepted exactly when its number and its proposer are one word.
-/

namespace Paxosme
namespace PaxAcceptor

open WordOrder

/-- The accept requests among some messages. -/
def accepts (messages : List PaxMessage) : List PaxMessage :=
  messages.filter fun message => message.messageType = .acceptBroadcast

/-- The last accept request of a run that was not rejected. -/
def lastAccepted (node : Node) (messages : List PaxMessage) : Option PaxMessage :=
  (accepts (grantedIn node messages)).getLast?

/-- The last accept request whose pair lies above the pair of every request before it. -/
def lastRecordAccept (messages : List PaxMessage) : Option PaxMessage :=
  (accepts (HighWater.taken requestPair (pair 0 0) (requests messages))).getLast?

/-- What an instance that has handled `messages` remembers of its accept requests. -/
structure RemembersAccepted (node : Node) (messages : List PaxMessage) : Prop where
  /-- The stored triple is the last one accepted. -/
  stored : ∀ accept, lastAccepted (newInstance node) messages = some accept →
    (run (newInstance node) messages).acceptor.acceptedProposalId = accept.proposalId ∧
      (run (newInstance node) messages).acceptor.acceptedProposer = accept.proposingNodeId ∧
        (run (newInstance node) messages).acceptor.acceptedValue = accept.proposedLogValue
  /-- A promise reports the last triple accepted. -/
  reported : ∀ accept prepare, lastAccepted (newInstance node) messages = some accept →
    prepare.messageType = .proposeBroadcast →
      ∀ reply ∈ replies (run (newInstance node) messages) prepare, reply.2.rejected = false →
        reply.2.acceptedProposal = accept.proposalId ∧
          reply.2.acceptedValue = accept.proposedLogValue
  /-- A promise before any acceptance reports none. -/
  unset : ∀ prepare, lastAccepted (newInstance node) messages = none →
    prepare.messageType = .proposeBroadcast →
      ∀ reply ∈ replies (run (newInstance node) messages) prepare, reply.2.rejected = false →
        reply.2.acceptedProposal = proposalDummy ∧ reply.2.acceptedValue = []

/-- The last acceptance is decided by the pairs of the run alone. -/
theorem lastAccepted_newInstance (node : Node) (messages : List PaxMessage) :
    lastAccepted (newInstance node) messages = lastRecordAccept messages := by
  rw [lastAccepted, grantedIn_eq_taken]
  rfl

/-- The accepted triple that the source stores for the last accept request. -/
def storedTriple (last : Option PaxMessage) : ProposalId × NodeId × LogValue :=
  match last with
  | none => (proposalDummy, nodeDummy, [])
  | some accept => (accept.proposingNodeId, accept.proposingNodeId, accept.proposedLogValue)

/-- The accepted triple of a state. -/
def acceptedTriple (state : AcceptorState) : ProposalId × NodeId × LogValue :=
  (state.acceptedProposalId, state.acceptedProposer, state.acceptedValue)

/-- One message stores the triple of an accept request that it grants and no other. -/
theorem acceptedTriple_handleMessage (node : Node) (message : PaxMessage) :
    acceptedTriple (handleMessage node message).acceptor =
      if Grants node message ∧ message.messageType = .acceptBroadcast then
        storedTriple (some message)
      else acceptedTriple node.acceptor := by
  by_cases granted : Grants node message
  · obtain ⟨request, above⟩ := (grants_iff node message).mp granted
    rw [handleMessage_granted node message request above]
    rcases request with propose | accept
    · simp [grantedState, propose, acceptedTriple, AcceptorState.setPromisedProposal]
    · simp [grantedState, accept, granted, acceptedTriple, storedTriple]
  · rw [if_neg fun both => granted both.1]
    by_cases request : IsRequest message
    · have below : ¬ promisedPair node.acceptor < requestPair message := fun above =>
        granted ((grants_iff node message).mpr ⟨request, above⟩)
      rw [handleMessage_refused node message request below]
    · rw [handleMessage_other node message request]

/-- The last acceptance after one more message. -/
theorem lastAccepted_concat (node : Node) (messages : List PaxMessage) (message : PaxMessage) :
    lastAccepted node (messages ++ [message]) =
      if Grants (run node messages) message ∧ message.messageType = .acceptBroadcast then
        some message
      else lastAccepted node messages := by
  rw [lastAccepted, grantedIn_append, accepts, List.filter_append]
  by_cases granted : Grants (run node messages) message
  · by_cases accept : message.messageType = .acceptBroadcast
    · simp [grantedIn, granted, accept]
    · simp [grantedIn, granted, accept, lastAccepted, accepts]
  · simp [grantedIn, granted, lastAccepted, accepts]

/-- After every run of an instance the stored triple is that of the last accept request
granted, as the source stores it. -/
theorem acceptedTriple_run (node : Node) (messages : List PaxMessage) :
    acceptedTriple (run (newInstance node) messages).acceptor =
      storedTriple (lastAccepted (newInstance node) messages) := by
  induction messages using List.reverseRecOn with
  | nil => rfl
  | append_singleton messages message ih =>
    rw [run_append, run_cons, run_nil, acceptedTriple_handleMessage, lastAccepted_concat]
    split
    · rfl
    · exact ih

/-- The proposer and the number of an accepted request are not both zero. -/
theorem lastAccepted_nonzero (node : Node) (messages : List PaxMessage) (accept : PaxMessage)
    (last : lastAccepted (newInstance node) messages = some accept) :
    pair 0 0 < requestPair accept := by
  rw [lastAccepted, grantedIn_eq_taken] at last
  have kept := List.mem_of_mem_filter (List.mem_of_getLast? last)
  exact HighWater.start_lt_of_taken requestPair _ _ accept kept

/-- A promise carries the stored number and value, where a number is stored. -/
theorem promise_reply (node : Node) (prepare : PaxMessage)
    (propose : prepare.messageType = .proposeBroadcast) (reply : NodeId × PaxMessage)
    (sent : reply ∈ replies node prepare) (granting : reply.2.rejected = false) :
    reply.2.acceptedProposal = node.acceptor.acceptedProposalId ∧
      reply.2.acceptedValue =
        if node.acceptor.acceptedProposalId ≠ proposalDummy then node.acceptor.acceptedValue
        else [] := by
  have request : IsRequest prepare := .inl propose
  by_cases above : promisedPair node.acceptor < requestPair prepare
  · rw [replies_granted node prepare request above, List.mem_singleton] at sent
    subst sent
    by_cases accepted : node.acceptor.acceptedProposalId = 0
    · simp [grantedAck, propose, accepted, PaxMessage.new]
    · simp [grantedAck, propose, accepted]
  · rw [replies_refused node prepare request above, List.mem_singleton] at sent
    subst sent
    simp [refusedAck] at granting

/-- An instance remembers what it accepted exactly when the last accept request whose pair
lies above every request before it, if there is one, has its proposer's id as its number. -/
theorem remembersAccepted_iff (node : Node) (messages : List PaxMessage) :
    RemembersAccepted node messages ↔
      ∀ accept, lastRecordAccept messages = some accept →
        accept.proposalId = accept.proposingNodeId := by
  have triple := acceptedTriple_run node messages
  rw [← lastAccepted_newInstance node]
  constructor
  · intro remembers accept last
    rw [last] at triple
    have number := congrArg Prod.fst triple
    exact (remembers.stored accept last).1.symm.trans number
  · intro same
    refine ⟨fun accept last => ?_, fun accept prepare last propose reply sent granting => ?_,
      fun prepare last propose reply sent granting => ?_⟩
    · rw [last] at triple
      simp only [acceptedTriple, storedTriple, Prod.mk.injEq] at triple
      rw [same accept last]
      exact triple
    · rw [last] at triple
      simp only [acceptedTriple, storedTriple, Prod.mk.injEq] at triple
      obtain ⟨number, _, value⟩ := triple
      have nonzero : accept.proposingNodeId ≠ proposalDummy := by
        intro zero
        have above := lastAccepted_nonzero node messages accept last
        rw [requestPair, same accept last, zero] at above
        exact lt_irrefl _ above
      have carried := promise_reply _ prepare propose reply sent granting
      rw [number, if_pos nonzero, value] at carried
      rw [same accept last]
      exact carried
    · rw [last] at triple
      simp only [acceptedTriple, storedTriple, Prod.mk.injEq] at triple
      have carried := promise_reply _ prepare propose reply sent granting
      rw [triple.1, if_neg (not_not.mpr rfl)] at carried
      exact carried

/-- An accept request numbered one from node seven is remembered with number seven. -/
theorem remembersAccepted_other_number :
    ¬ RemembersAccepted (Node.fresh sampleOptions 0) [sampleAccept] := by
  intro remembers
  have number := (remembers.stored sampleAccept (by decide)).1
  exact absurd number (by decide)

end PaxAcceptor
end Paxosme
