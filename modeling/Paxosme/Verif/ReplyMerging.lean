import Paxosme.Lib.HighWater
import Paxosme.Verif.ProposerKnowledge

/-!
# Merging replies

Replies are merged into the state of a proposer one after the other. What is left is the
lexicographic maximum of their pairs and the value of the first reply that attains it, so the
order in which different pairs arrive does not matter.
-/

namespace Paxosme

open WordOrder

/-- What `TryUpdateLogValue` is called with. -/
structure Reply where
  proposalId : ProposalId
  nodeId : NodeId
  logValue : LogValue
  deriving DecidableEq, Repr

/-- The pair of a reply. -/
def Reply.pair (reply : Reply) : WordPair := WordOrder.pair reply.proposalId reply.nodeId

namespace ProposerState

/-- `TryUpdateLogValue` of a reply. -/
def tryMerge (state : ProposerState) (reply : Reply) : ProposerState × Bool :=
  state.tryUpdateLogValue reply.proposalId reply.nodeId reply.logValue

/-- The state after a list of replies. -/
def merge (state : ProposerState) (replies : List Reply) : ProposerState :=
  replies.foldl (fun state reply => (state.tryMerge reply).1) state

/-- What is left of some replies, and what each call returns, when the state was reset and given
a value before. -/
structure KeepsMaximum (start : ProposerState) (value : LogValue) (replies : List Reply) :
    Prop where
  /-- The known pair is the maximum of the pair of zeros and all pairs. -/
  highest : IsGreatest (insert (pair 0 0) {known | ∃ reply ∈ replies, reply.pair = known})
    (start.merge replies).knownPair
  /-- The value stays while the maximum is the pair of zeros. -/
  own : (start.merge replies).knownPair = pair 0 0 → (start.merge replies).logValue = value
  /-- Otherwise it is that of the first reply that attains the maximum. -/
  first : (start.merge replies).knownPair ≠ pair 0 0 → ∃ earlier reply later,
    replies = earlier ++ reply :: later ∧ reply.pair = (start.merge replies).knownPair ∧
      (∀ other ∈ earlier, other.pair ≠ (start.merge replies).knownPair) ∧
      (start.merge replies).logValue = reply.logValue
  /-- A call returns true exactly when its pair exceeds all earlier ones, the first of which is
  the pair of zeros. -/
  returns : ∀ earlier reply later, replies = earlier ++ reply :: later →
    (((start.merge earlier).tryMerge reply).2 = true ↔
      ∀ known ∈ pair 0 0 :: earlier.map Reply.pair, known < reply.pair)
  /-- The order of replies with different pairs does not matter. -/
  order : (replies.map Reply.pair).Nodup → ∀ other, replies.Perm other →
    start.merge other = start.merge replies

/-- One reply offers its pair, and leaves its value when that is taken. -/
theorem tryMerge_eq (state : ProposerState) (reply : Reply) :
    state.tryMerge reply =
      if state.knownPair < reply.pair then
        ({ state.withKnown reply.proposalId reply.nodeId with logValue := reply.logValue }, true)
      else (state, false) :=
  tryUpdateLogValue_eq state reply.proposalId reply.nodeId reply.logValue

@[simp] theorem merge_nil (state : ProposerState) : state.merge [] = state := rfl

@[simp] theorem merge_cons (state : ProposerState) (reply : Reply) (replies : List Reply) :
    state.merge (reply :: replies) = ((state.tryMerge reply).1).merge replies := rfl

/-- The known pair is a high-water mark of the pairs. -/
theorem knownPair_merge (state : ProposerState) (replies : List Reply) :
    (state.merge replies).knownPair = HighWater.mark Reply.pair state.knownPair replies := by
  induction replies generalizing state with
  | nil => rfl
  | cons reply replies ih =>
    have offered : ((state.tryMerge reply).1).knownPair =
        HighWater.offer Reply.pair state.knownPair reply := by
      rw [tryMerge_eq, HighWater.offer]
      split
      · rfl
      · rfl
    rw [merge_cons, ih, offered, HighWater.mark_cons]

/-- The value is that of the last reply taken. -/
theorem logValue_merge (state : ProposerState) (replies : List Reply) :
    (state.merge replies).logValue =
      ((HighWater.taken Reply.pair state.knownPair replies).getLast?.map Reply.logValue).getD
        state.logValue := by
  induction replies generalizing state with
  | nil => rfl
  | cons reply replies ih =>
    rw [merge_cons, ih, tryMerge_eq, HighWater.taken]
    split
    · have raised : ({ state.withKnown reply.proposalId reply.nodeId with
          logValue := reply.logValue } : ProposerState).knownPair = reply.pair := rfl
      dsimp only
      rw [raised]
      cases later : HighWater.taken Reply.pair reply.pair replies with
      | nil => rfl
      | cons next rest =>
        rw [List.getLast?_cons_cons, List.getLast?_eq_some_getLast (List.cons_ne_nil _ _)]
        rfl
    · rfl

/-- Merging leaves the own number. -/
theorem myProposalId_merge (state : ProposerState) (replies : List Reply) :
    (state.merge replies).myProposalId = state.myProposalId := by
  induction replies generalizing state with
  | nil => rfl
  | cons reply replies ih =>
    rw [merge_cons, ih]
    exact state.myProposalId_tryUpdateLogValue _ _ _

/-- A state is told by its known pair, its value and its own number. -/
theorem eq_of_parts {state other : ProposerState} (pairs : state.knownPair = other.knownPair)
    (values : state.logValue = other.logValue)
    (numbers : state.myProposalId = other.myProposalId) : state = other := by
  have words := Prod.ext_iff.mp (toLex.injective pairs)
  cases state
  cases other
  simp_all

/-- **The state of a proposer keeps the lexicographic maximum** of the replies merged into it. -/
theorem keeps_maximum (state : ProposerState) (value : LogValue) (replies : List Reply) :
    KeepsMaximum (state.reset.setLogValue value) value replies := by
  generalize start_eq : state.reset.setLogValue value = start
  have zero : start.knownPair = pair 0 0 := by
    rw [← start_eq]
    rfl
  have given : start.logValue = value := by
    rw [← start_eq]
    rfl
  have known := fun replies => knownPair_merge start replies
  simp only [zero] at known
  have valued := fun replies => logValue_merge start replies
  simp only [zero, given] at valued
  constructor
  · rw [known]
    exact HighWater.mark_isGreatest Reply.pair (pair 0 0) replies
  · intro kept
    rw [known] at kept
    rw [valued, HighWater.taken_eq_nil Reply.pair kept]
    rfl
  · intro moved
    rw [known] at moved ⊢
    have risen := lt_of_le_of_ne (zero_le_pair _) moved.symm
    obtain ⟨earlier, reply, later, split, attains, first, last⟩ :=
      HighWater.first_attaining Reply.pair risen
    refine ⟨earlier, reply, later, split, attains, fun other member => ?_, ?_⟩
    · rw [← attains]
      exact (first other member).ne
    · rw [valued, last]
      rfl
  · intro earlier reply later _
    have above := HighWater.mark_lt_iff Reply.pair (pair 0 0) reply.pair earlier
    rw [← known] at above
    rw [tryMerge_eq, List.forall_mem_cons, List.forall_mem_map, ← above]
    split
    · rename_i higher
      exact iff_of_true rfl higher
    · rename_i lower
      exact iff_of_false Bool.false_ne_true lower
  · intro distinct other same
    apply eq_of_parts
    · rw [known, known, HighWater.mark_perm Reply.pair _ same]
    · rw [valued, valued, HighWater.getLast_taken_perm Reply.pair _ same distinct]
    · rw [myProposalId_merge, myProposalId_merge]

/-- The first of two equal pairs decides, whichever order the lower one comes in. -/
example : let start := ProposerState.setLogValue {} [0]
    (start.merge [⟨2, 1, [5]⟩, ⟨2, 1, [6]⟩, ⟨1, 9, [7]⟩]).logValue = [5] ∧
      (start.merge [⟨1, 9, [7]⟩, ⟨2, 1, [5]⟩, ⟨2, 1, [6]⟩]).logValue = [5] := by
  decide

end ProposerState
end Paxosme
