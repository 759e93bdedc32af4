import Paxosme.Lib.HighWater
import Paxosme.Core.Acceptor

/-!
# Runs of an acceptor

Between two calls of `NewInstance` an acceptor handles a list of messages. A request is
granted or refused by what its reply says. This module reads both off the promised pair held
before the step and describes a whole run through a high-water mark: the promised pair is the
mark of the pairs offered, and the requests granted are the items it takes.
-/

namespace Paxosme
namespace PaxAcceptor

open WordOrder

/-- The state after a list of messages handled in order. -/
def run (node : Node) (messages : List PaxMessage) : Node := messages.foldl handleMessage node

@[simp] theorem run_nil (node : Node) : run node [] = node := rfl

@[simp] theorem run_cons (node : Node) (message : PaxMessage) (messages : List PaxMessage) :
    run node (message :: messages) = run (handleMessage node message) messages := rfl

/-- A run of two lists is a run of the first and then of the second. -/
theorem run_append (node : Node) (first second : List PaxMessage) :
    run node (first ++ second) = run (run node first) second := List.foldl_append

/-- The replies sent while one message is handled, with the node addressed. -/
def replies (node : Node) (message : PaxMessage) : List (NodeId × PaxMessage) :=
  Node.sends (Node.callsSince node (handleMessage node message))

/-- The message is answered without rejection. -/
def Grants (node : Node) (message : PaxMessage) : Prop :=
  ∃ reply ∈ replies node message, reply.2.rejected = false

/-- The message is answered with a rejection. -/
def Rejects (node : Node) (message : PaxMessage) : Prop :=
  ∃ reply ∈ replies node message, reply.2.rejected = true

instance (node : Node) (message : PaxMessage) : Decidable (Grants node message) :=
  inferInstanceAs (Decidable (∃ reply ∈ replies node message, reply.2.rejected = false))

instance (node : Node) (message : PaxMessage) : Decidable (Rejects node message) :=
  inferInstanceAs (Decidable (∃ reply ∈ replies node message, reply.2.rejected = true))

/-- The messages of a run that were granted, in order. -/
def grantedIn (node : Node) : List PaxMessage → List PaxMessage
  | [] => []
  | message :: messages =>
    if Grants node message then message :: grantedIn (handleMessage node message) messages
    else grantedIn (handleMessage node message) messages

/-- A request above the promise gets one reply, the granting one. -/
theorem replies_granted (node : Node) (message : PaxMessage) (request : IsRequest message)
    (above : promisedPair node.acceptor < requestPair message) :
    replies node message = [(message.proposingNodeId, grantedAck node message)] := by
  rw [replies, handleMessage_granted node message request above, Node.callsSince_of_append rfl]
  rfl

/-- A request that is not above the promise gets one reply, the refusing one. -/
theorem replies_refused (node : Node) (message : PaxMessage) (request : IsRequest message)
    (below : ¬ promisedPair node.acceptor < requestPair message) :
    replies node message = [(message.proposingNodeId, refusedAck node message)] := by
  rw [replies, handleMessage_refused node message request below, Node.callsSince_of_append rfl]
  rfl

/-- Other messages get no reply. -/
theorem replies_other (node : Node) (message : PaxMessage) (other : ¬ IsRequest message) :
    replies node message = [] := by
  rw [replies, handleMessage_other node message other,
    Node.callsSince_of_append (List.append_nil _).symm]
  rfl

/-- The granting reply does not carry the rejection flag. -/
theorem grantedAck_rejected (node : Node) (message : PaxMessage) :
    (grantedAck node message).rejected = false := by
  simp only [grantedAck]
  split
  · rfl
  · rfl

/-- Granted are the requests above the promise. -/
theorem grants_iff (node : Node) (message : PaxMessage) :
    Grants node message ↔
      IsRequest message ∧ promisedPair node.acceptor < requestPair message := by
  unfold Grants
  by_cases request : IsRequest message
  · by_cases above : promisedPair node.acceptor < requestPair message
    · simp [replies_granted node message request above, grantedAck_rejected, request, above]
    · simp [replies_refused node message request above, refusedAck, above]
  · simp [replies_other node message request, request]

/-- Rejected are the requests that are not above the promise. -/
theorem rejects_iff (node : Node) (message : PaxMessage) :
    Rejects node message ↔
      IsRequest message ∧ ¬ promisedPair node.acceptor < requestPair message := by
  unfold Rejects
  by_cases request : IsRequest message
  · by_cases above : promisedPair node.acceptor < requestPair message
    · simp [replies_granted node message request above, grantedAck_rejected, above]
    · simp [replies_refused node message request above, refusedAck, request, above]
  · simp [replies_other node message request, request]

/-- A granted request moves the promise to its pair. -/
theorem promisedPair_grantedState (state : AcceptorState) (message : PaxMessage) :
    promisedPair (grantedState state message) = requestPair message := by
  unfold grantedState
  split
  · rfl
  · rfl

/-- One message offers its pair to the promise, if it is a request. -/
theorem promisedPair_handleMessage (node : Node) (message : PaxMessage) :
    promisedPair (handleMessage node message).acceptor =
      if IsRequest message then HighWater.offer requestPair (promisedPair node.acceptor) message
      else promisedPair node.acceptor := by
  by_cases request : IsRequest message
  · rw [if_pos request]
    unfold HighWater.offer
    by_cases above : promisedPair node.acceptor < requestPair message
    · rw [if_pos above, handleMessage_granted node message request above]
      exact promisedPair_grantedState node.acceptor message
    · rw [if_neg above, handleMessage_refused node message request above]
  · rw [if_neg request, handleMessage_other node message request]

/-- The requests of a run. -/
def requests (messages : List PaxMessage) : List PaxMessage :=
  messages.filter fun message => IsRequest message

/-- The promised pair after a run is the mark of the pairs of its requests. -/
theorem promisedPair_run (node : Node) (messages : List PaxMessage) :
    promisedPair (run node messages).acceptor =
      HighWater.mark requestPair (promisedPair node.acceptor) (requests messages) := by
  induction messages generalizing node with
  | nil => rfl
  | cons message messages ih =>
    rw [run_cons, ih, promisedPair_handleMessage, requests, requests]
    by_cases request : IsRequest message
    · rw [if_pos request, List.filter_cons_of_pos (by simpa using request), HighWater.mark_cons]
    · rw [if_neg request, List.filter_cons_of_neg (by simpa using request)]

/-- The granted requests of a run are those that the mark takes. -/
theorem grantedIn_eq_taken (node : Node) (messages : List PaxMessage) :
    grantedIn node messages =
      HighWater.taken requestPair (promisedPair node.acceptor) (requests messages) := by
  induction messages generalizing node with
  | nil => rfl
  | cons message messages ih =>
    rw [grantedIn, ih, promisedPair_handleMessage, requests, requests]
    by_cases request : IsRequest message
    · rw [if_pos request, List.filter_cons_of_pos (by simpa using request),
        HighWater.taken_cons]
      simp only [grants_iff, request, true_and]
    · rw [if_neg request, List.filter_cons_of_neg (by simpa using request),
        if_neg fun granted => request ((grants_iff node message).mp granted).1]

/-- Granted messages of a run followed by more messages. -/
theorem grantedIn_append (node : Node) (first second : List PaxMessage) :
    grantedIn node (first ++ second) =
      grantedIn node first ++ grantedIn (run node first) second := by
  simp only [grantedIn_eq_taken, requests, List.filter_append, HighWater.taken_append,
    promisedPair_run]

/-- A new instance starts from the pair of zeros. -/
theorem promisedPair_newInstance (node : Node) :
    promisedPair (newInstance node).acceptor = pair 0 0 := rfl

end PaxAcceptor
end Paxosme
