import Paxosme.Verif.AcceptorRuns
import Paxosme.Core.Proposer

/-!
# Requests and their acknowledgements

A request, the acceptor's reply and the proposer's guards name the same round by three words:
the number, the proposer and the instance. `GenerateMessage` writes the number over the
proposer, and `ReplyProposer` writes none of the three, so what travels in their place is
zero. The two phases differ in their message types alone and are treated together.
-/

namespace Paxosme

/-- The two phases of a round. -/
inductive Phase where
  | prepare
  | accept
  deriving DecidableEq, Repr

namespace Phase

/-- The type of a phase's request. -/
def requestType : Phase → MessageType
  | .prepare => .proposeBroadcast
  | .accept => .acceptBroadcast

/-- The status of a proposer in a phase. -/
def status : Phase → ProposerStatus
  | .prepare => .kPropose
  | .accept => .kAccept

end Phase

namespace PaxProposer

/-- The request of a phase, as `GenerateMessage` builds it for the own number. -/
def request (phase : Phase) (proposer : Node) : PaxMessage :=
  generateMessage proposer phase.requestType proposer.proposer.proposerState.myProposalId

/-- The request of one phase of `proposer`, answered by `acceptor`, names the round at every
stage, and no proposer of that id in that phase with that number discards the reply. -/
structure Correlates (phase : Phase) (proposer acceptor : Node) : Prop where
  /-- The request carries the number. -/
  number : (request phase proposer).proposalId = proposer.proposer.proposerState.myProposalId
  /-- The request carries the proposer. -/
  node : (request phase proposer).proposingNodeId = proposer.getNodeId
  /-- The request carries the instance. -/
  instanceId : (request phase proposer).instanceId = proposer.instanceId
  /-- There is one reply; it goes to the proposer, names the round and passes the guards. -/
  reply : ∃ ack : PaxMessage,
    PaxAcceptor.replies acceptor (request phase proposer) = [(proposer.getNodeId, ack)] ∧
      ack.proposalId = proposer.proposer.proposerState.myProposalId ∧
      ack.proposingNodeId = proposer.getNodeId ∧ ack.instanceId = proposer.instanceId ∧
      ∀ waiting : Node, waiting.getNodeId = proposer.getNodeId →
        waiting.proposer.status = phase.status →
          waiting.proposer.proposerState.myProposalId =
              proposer.proposer.proposerState.myProposalId →
            ¬ Discards phase.status waiting ack

/-- A request of either phase is a message the acceptor handles. -/
theorem request_isRequest (phase : Phase) (proposer : Node) :
    PaxAcceptor.IsRequest (request phase proposer) := by
  cases phase with
  | prepare => exact .inl rfl
  | accept => exact .inr rfl

/-- The reply to a request names no round: number, proposer and instance are zero. -/
theorem reply_names_nothing (acceptor : Node) (message : PaxMessage)
    (handled : PaxAcceptor.IsRequest message) :
    ∃ ack : PaxMessage, PaxAcceptor.replies acceptor message = [(message.proposingNodeId, ack)] ∧
      ack.proposalId = 0 ∧ ack.proposingNodeId = 0 ∧ ack.instanceId = 0 := by
  by_cases above : PaxAcceptor.promisedPair acceptor.acceptor < PaxAcceptor.requestPair message
  · refine ⟨_, PaxAcceptor.replies_granted acceptor message handled above, ?_⟩
    unfold PaxAcceptor.grantedAck
    split
    · exact ⟨rfl, rfl, rfl⟩
    · exact ⟨rfl, rfl, rfl⟩
  · exact ⟨_, PaxAcceptor.replies_refused acceptor message handled above, rfl, rfl, rfl⟩

/-- A request and its reply name the round exactly when all three words of it are zero. -/
theorem correlates_iff (phase : Phase) (proposer acceptor : Node) :
    Correlates phase proposer acceptor ↔
      proposer.proposer.proposerState.myProposalId = 0 ∧ proposer.getNodeId = 0 ∧
        proposer.instanceId = 0 := by
  obtain ⟨ack, sent, number, node, instanceId⟩ :=
    reply_names_nothing acceptor (request phase proposer) (request_isRequest phase proposer)
  constructor
  · intro correlates
    obtain ⟨ack', sent', _, _, instance', _⟩ := correlates.reply
    rw [sent] at sent'
    have same : ack = ack' := congrArg Prod.snd (List.head_eq_of_cons_eq sent')
    have zero : proposer.proposer.proposerState.myProposalId = 0 := correlates.number.symm
    have named : proposer.proposer.proposerState.myProposalId = proposer.getNodeId :=
      correlates.node
    exact ⟨zero, named.symm.trans zero, by rw [← instance', ← same, instanceId]⟩
  · rintro ⟨zeroNumber, zeroNode, zeroInstance⟩
    have addressed : (request phase proposer).proposingNodeId = proposer.getNodeId :=
      zeroNumber.trans zeroNode.symm
    refine ⟨zeroNumber.symm, addressed, rfl, ack, by rw [sent, addressed], ?_, ?_, ?_, ?_⟩
    · rw [number, zeroNumber]
    · rw [node, zeroNode]
    · rw [instanceId, zeroInstance]
    · intro waiting sameNode inPhase sameNumber
      simp only [Discards, inPhase, node, number, sameNode, zeroNode, sameNumber, zeroNumber,
        ne_eq, not_true_eq_false, or_self, not_false_eq_true]

/-- Node seven, with number one in instance zero, gets no acknowledgement of its own. -/
theorem correlates_fresh_node :
    ¬ Correlates .prepare (Node.fresh ⟨7, 1 / 2, 3, 0⟩ 0) (Node.fresh ⟨8, 1 / 2, 3, 0⟩ 0) := by
  intro correlates
  exact absurd correlates.number (by decide)

end PaxProposer
end Paxosme
