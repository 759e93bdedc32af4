import Paxosme.Core.Controller

/-!
# Invariants of a node

`PaxController::HandleMessage` reaches the handlers of the three players through four tests, and
itself once more through the accept acknowledgement that shows a majority. An invariant of a node
that each handler keeps, for messages with a property, is kept by the whole, under every routing.
-/

namespace Paxosme

/-- The handlers of the three players, and the end of the controller's handler, keep an invariant
of a node when they are given messages with a property. -/
structure NodeInvariant (Inv : Node → Prop) (Good : PaxMessage → Prop) : Prop where
  /-- The acceptor's handler. -/
  acceptor : ∀ node message, Inv node → Good message → Inv (PaxAcceptor.handleMessage node message)
  /-- The learner's handler. -/
  learner : ∀ node message, Inv node → Good message → Inv (PaxLearner.handleMessage node message)
  /-- A promise acknowledgement that is counted. -/
  promise : ∀ node message, Inv node → Good message →
    ¬ PaxProposer.Discards .kPropose node message →
    Inv (PaxProposer.handleProposeAck node message)
  /-- An accept acknowledgement that is counted and shows no majority. -/
  counted : ∀ node message, Inv node → Good message →
    ¬ PaxProposer.Discards .kAccept node message →
    Inv { node with
      proposer := PaxProposer.countAcceptAck node message
      calls := node.calls ++ PaxProposer.relaunch
        (PaxProposer.countAcceptAck node message).proposalCounter node.options .acceptTimeout
        PaxProposer.acceptTimeout message }
  /-- An accept acknowledgement that shows a majority, before the controller is entered again. -/
  majority : ∀ node message, Inv node → Good message →
    ¬ PaxProposer.Discards .kAccept node message →
    Inv (PaxProposer.withProposer node
      { PaxProposer.countAcceptAck node message with status := .kMajorityAccepted }) ∧
      Good (PaxProposer.chosenMessage (PaxProposer.withProposer node
        { PaxProposer.countAcceptAck node message with status := .kMajorityAccepted }) message)
  /-- The end of the controller's handler. -/
  finish : ∀ node, Inv node → Inv (PaxController.finish node)

namespace NodeInvariant

variable {Inv : Node → Prop} {Good : PaxMessage → Prop} {node : Node} {message : PaxMessage}

/-- A promise acknowledgement, counted or not. -/
theorem handleProposeAck (kept : NodeInvariant Inv Good) (holds : Inv node) (good : Good message) :
    Inv (PaxProposer.handleProposeAck node message) := by
  by_cases discarded : PaxProposer.Discards .kPropose node message
  · rw [PaxProposer.handleProposeAck_discarded node message discarded]
    exact holds
  · exact kept.promise node message holds good discarded

/-- An accept acknowledgement, if the call it re-enters with keeps the invariant. -/
theorem handleAcceptAck (kept : NodeInvariant Inv Good) (holds : Inv node) (good : Good message)
    (process : Node → PaxMessage → Node)
    (processed : ∀ inner chosen, Inv inner → Good chosen → chosen.messageType = .valueChosen →
      Inv (process inner chosen)) :
    Inv (PaxProposer.handleAcceptAck process node message) := by
  by_cases discarded : PaxProposer.Discards .kAccept node message
  · rw [PaxProposer.handleAcceptAck_discarded process node message discarded]
    exact holds
  · by_cases majority : (PaxProposer.countAcceptAck node message).proposalCounter.isMajorityAccepted
        node.options = true
    · rw [PaxProposer.handleAcceptAck_majority process node message discarded majority]
      have reached := kept.majority node message holds good discarded
      exact processed _ _ reached.1 reached.2 rfl
    · rw [PaxProposer.handleAcceptAck_counted process node message discarded majority]
      exact kept.counted node message holds good discarded

/-- The routing, if the call it re-enters with keeps the invariant. -/
theorem dispatch (kept : NodeInvariant Inv Good) (holds : Inv node) (good : Good message)
    (routing : Routing) (process : Node → PaxMessage → Node)
    (processed : message.messageType ≠ .valueChosen → ∀ inner chosen, Inv inner → Good chosen →
      chosen.messageType = .valueChosen → Inv (process inner chosen)) :
    Inv (PaxController.dispatch routing process node message) := by
  unfold PaxController.dispatch
  split
  · exact kept.learner node message holds good
  · split
    · unfold PaxProposer.handleMessage
      split
      · exact kept.handleProposeAck holds good
      · rename_i kind
        exact kept.handleAcceptAck holds good process (processed (by simp [kind]))
      · exact holds
    · split
      · exact kept.acceptor node message holds good
      · exact holds

/-- The call that the handler makes of itself. -/
theorem processChosenValue (kept : NodeInvariant Inv Good) (holds : Inv node) (good : Good message)
    (routing : Routing) (chosen : message.messageType = .valueChosen) :
    Inv (PaxController.processChosenValue routing node message) := by
  unfold PaxController.processChosenValue PaxController.handleMessageBody
  split
  · exact holds
  · have dispatched := kept.dispatch holds good routing (fun node _ => node)
      fun other => absurd chosen other
    exact kept.finish _ dispatched

/-- **The controller's handler keeps the invariant**, under every routing. -/
theorem handleMessage (kept : NodeInvariant Inv Good) (holds : Inv node) (good : Good message)
    (routing : Routing) : Inv (PaxController.handleMessage routing node message) := by
  unfold PaxController.handleMessage PaxController.handleMessageBody
  split
  · exact holds
  · have dispatched := kept.dispatch holds good routing (PaxController.processChosenValue routing)
      fun _ inner chosen reached good' kind => kept.processChosenValue reached good' routing kind
    exact kept.finish _ dispatched

end NodeInvariant

end Paxosme
