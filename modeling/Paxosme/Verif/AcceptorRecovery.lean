import Paxosme.Core.Recovery
import Paxosme.Verif.AcceptorMemory

/-!
# What a record gives back

`UpdatePromised` writes a record for every request that it grants, and `AcceptorState::Init`
reads a record into an acceptor. The record names the proposer of the request granted as the
node of the accepted proposal, and `SetAcceptedProposal` stores that node in place of the
number. So the record of a promise that follows the acceptance of another proposer gives back
the wrong pair, and one whose stored number is zero gives back no value.
-/

namespace Paxosme

namespace PaxAcceptor

open WordOrder

/-- The last record that an instance writes while it handles some messages. -/
def lastWritten (node : Node) (messages : List PaxMessage) : Option PaxosLogEntry :=
  (Node.written (Node.callsSince (newInstance node) (run (newInstance node) messages))).getLast?

/-- The last record of an instance gives back the state of the acceptor. -/
def RecordRestores (node : Node) (messages : List PaxMessage) : Prop :=
  ∀ entry, lastWritten node messages = some entry →
    AcceptorState.init {} entry = (run (newInstance node) messages).acceptor

/-- The last request whose pair lies above the pair of every request before it. -/
def lastRecordRequest (messages : List PaxMessage) : Option PaxMessage :=
  (HighWater.taken requestPair (pair 0 0) (requests messages)).getLast?

/-- The last accept request that raised the promise and the last request of any kind that did
have one proposer, or the accept request has proposer zero and no value. -/
def SameProposer (messages : List PaxMessage) : Prop :=
  ∀ accept request, lastRecordAccept messages = some accept →
    lastRecordRequest messages = some request →
      if accept.proposingNodeId = nodeDummy then accept.proposedLogValue = []
      else request.proposingNodeId = accept.proposingNodeId

/-- One message adds at most one record, the one of the request that it grants. -/
theorem written_handleMessage (node : Node) (message : PaxMessage) :
    ∃ later, (handleMessage node message).calls = node.calls ++ later ∧
      Node.written later = if Grants node message then [grantedEntry node message] else [] := by
  by_cases granted : Grants node message
  · obtain ⟨request, above⟩ := (grants_iff node message).mp granted
    refine ⟨_, by rw [handleMessage_granted node message request above], ?_⟩
    rw [if_pos granted]
    rfl
  · rw [if_neg granted]
    by_cases request : IsRequest message
    · have below : ¬ promisedPair node.acceptor < requestPair message := fun above =>
        granted ((grants_iff node message).mpr ⟨request, above⟩)
      exact ⟨_, by rw [handleMessage_refused node message request below], rfl⟩
    · exact ⟨[], by rw [handleMessage_other node message request, List.append_nil], rfl⟩

/-- The calls of a run extend those made before it. -/
theorem run_calls (node : Node) (messages : List PaxMessage) :
    ∃ later, (run node messages).calls = node.calls ++ later := by
  induction messages generalizing node with
  | nil => exact ⟨[], (List.append_nil _).symm⟩
  | cons message messages ih =>
    obtain ⟨later, appended⟩ := ih (handleMessage node message)
    obtain ⟨replied, answered, _⟩ := written_handleMessage node message
    refine ⟨replied ++ later, ?_⟩
    rw [run_cons, appended, answered, List.append_assoc]

/-- The last record after one more message. -/
theorem lastWritten_concat (node : Node) (messages : List PaxMessage) (message : PaxMessage) :
    lastWritten node (messages ++ [message]) =
      if Grants (run (newInstance node) messages) message then
        some (grantedEntry (run (newInstance node) messages) message)
      else lastWritten node messages := by
  obtain ⟨earlier, before⟩ := run_calls (newInstance node) messages
  obtain ⟨later, after, records⟩ :=
    written_handleMessage (run (newInstance node) messages) message
  have all : (run (newInstance node) (messages ++ [message])).calls =
      (newInstance node).calls ++ (earlier ++ later) := by
    rw [run_append, run_cons, run_nil, after, before, List.append_assoc]
  rw [lastWritten, lastWritten, Node.callsSince_of_append all, Node.callsSince_of_append before,
    Node.written_append, records]
  split
  · rw [List.getLast?_append, List.getLast?_singleton, Option.some_or]
  · rw [List.append_nil]

/-- The last request that raised the promise, after one more message. -/
theorem lastRecordRequest_concat (node : Node) (messages : List PaxMessage)
    (message : PaxMessage) :
    lastRecordRequest (messages ++ [message]) =
      if Grants (run (newInstance node) messages) message then some message
      else lastRecordRequest messages := by
  have granted (some : List PaxMessage) : lastRecordRequest some =
      (grantedIn (newInstance node) some).getLast? := by
    rw [lastRecordRequest, grantedIn_eq_taken, promisedPair_newInstance]
  rw [granted, granted, grantedIn_append]
  by_cases grant : Grants (run (newInstance node) messages) message
  · rw [if_pos grant]
    simp [grantedIn, grant]
  · rw [if_neg grant]
    simp [grantedIn, grant]

/-- A message that is not granted leaves the state of the acceptor and the log. -/
theorem handleMessage_ungranted (node : Node) (message : PaxMessage)
    (refused : ¬ Grants node message) :
    (handleMessage node message).acceptor = node.acceptor ∧
      (handleMessage node message).storage = node.storage := by
  by_cases request : IsRequest message
  · have below : ¬ promisedPair node.acceptor < requestPair message := fun above =>
      refused ((grants_iff node message).mpr ⟨request, above⟩)
    rw [handleMessage_refused node message request below]
    exact ⟨rfl, rfl⟩
  · rw [handleMessage_other node message request]
    exact ⟨rfl, rfl⟩

/-- The instance of a node does not change while its acceptor handles messages. -/
theorem run_instanceId (node : Node) (messages : List PaxMessage) :
    (run node messages).instanceId = node.instanceId := by
  induction messages generalizing node with
  | nil => rfl
  | cons message messages ih =>
    rw [run_cons, ih, handleMessage_frame]

/-- After every run the last record is the one of the last request that raised the promise,
filled from the state that the run leaves. -/
theorem lastWritten_eq (node : Node) (messages : List PaxMessage) :
    lastWritten node messages = (lastRecordRequest messages).map fun request =>
      promisedEntry node.instanceId (run (newInstance node) messages).acceptor
        request.proposingNodeId request.proposalId := by
  induction messages using List.reverseRecOn with
  | nil =>
    rw [lastWritten, run_nil, Node.callsSince_of_append (List.append_nil _).symm]
    rfl
  | append_singleton messages message ih =>
    rw [lastWritten_concat, lastRecordRequest_concat node, run_append, run_cons, run_nil]
    split
    · rename_i granted
      obtain ⟨request, above⟩ := (grants_iff _ message).mp granted
      rw [handleMessage_granted _ message request above, Option.map_some, grantedEntry,
        run_instanceId]
      rfl
    · rename_i refused
      rw [ih, (handleMessage_ungranted _ message refused).1]

/-- After every run the promised pair is that of the last request that raised it. -/
theorem promised_lastRecordRequest (node : Node) (messages : List PaxMessage)
    (request : PaxMessage) (last : lastRecordRequest messages = some request) :
    (run (newInstance node) messages).acceptor.promisedProposalId = request.proposalId ∧
      (run (newInstance node) messages).acceptor.promisedNodeId = request.proposingNodeId := by
  induction messages using List.reverseRecOn with
  | nil => exact absurd last (by simp [lastRecordRequest, requests])
  | append_singleton messages message ih =>
    rw [lastRecordRequest_concat node] at last
    rw [run_append, run_cons, run_nil]
    by_cases granted : Grants (run (newInstance node) messages) message
    · rw [if_pos granted, Option.some.injEq] at last
      subst last
      obtain ⟨isRequest, above⟩ := (grants_iff _ message).mp granted
      rw [handleMessage_granted _ message isRequest above]
      rcases isRequest with propose | accept
      · simp [grantedState, propose, AcceptorState.setPromisedProposal]
      · simp [grantedState, accept]
    · rw [if_neg granted] at last
      rw [(handleMessage_ungranted _ message granted).1]
      exact ih last

/-- What a record filled from a state gives back: the promised pair of the record, and the
accepted proposal where a number is stored. -/
theorem init_promisedEntry (instanceId : InstanceId) (state : AcceptorState) (proposer : NodeId)
    (proposalId : ProposalId) :
    AcceptorState.init {} (promisedEntry instanceId state proposer proposalId) =
      if state.acceptedProposalId ≠ 0 then
        { promisedProposalId := proposalId, promisedNodeId := proposer,
          acceptedProposalId := proposer, acceptedProposer := proposer,
          acceptedValue := state.acceptedValue }
      else { promisedProposalId := proposalId, promisedNodeId := proposer } := by
  rw [promisedEntry]
  split
  · rfl
  · rfl

/-- An instance's last record gives back the state of the acceptor exactly when the request
that it was written for has the proposer of the last accept request, or that one has proposer
zero and no value, or there is none. -/
theorem recordRestores_iff (node : Node) (messages : List PaxMessage) :
    RecordRestores node messages ↔ SameProposer messages := by
  have triple := acceptedTriple_run node messages
  have promised := promised_lastRecordRequest node messages
  rw [lastAccepted_newInstance] at triple
  rw [RecordRestores, SameProposer, lastWritten_eq]
  generalize (run (newInstance node) messages).acceptor = state at triple promised ⊢
  cases raised : lastRecordRequest messages with
  | none => simp
  | some request =>
    have last := promised request raised
    obtain ⟨promisedProposalId, promisedNodeId, acceptedProposalId, acceptedProposer, value⟩ :=
      state
    obtain ⟨rfl, rfl⟩ := last
    simp only [Option.map_some, Option.some.injEq, forall_eq', init_promisedEntry]
    cases accepted : lastRecordAccept messages with
    | none =>
      rw [accepted] at triple
      simp only [acceptedTriple, storedTriple, Prod.mk.injEq] at triple
      obtain ⟨rfl, rfl, rfl⟩ := triple
      simp
    | some accept =>
      rw [accepted] at triple
      simp only [acceptedTriple, storedTriple, Prod.mk.injEq] at triple
      obtain ⟨rfl, rfl, rfl⟩ := triple
      by_cases unnumbered : accept.proposingNodeId = 0
      · simp [unnumbered, eq_comm]
      · simp [unnumbered]

/-- Node seven's value is accepted and node eight's prepare request is promised; the record
gives back an acceptance of node eight. -/
theorem recordRestores_other_promiser :
    ¬ RecordRestores (Node.fresh sampleOptions 0)
      [sampleAccept, { samplePrepare with proposalId := 2, proposingNodeId := 8 }] := by
  intro restores
  have same := restores
    { promisedProposalId := 2, promisedNodeId := 8, acceptedProposalId := 7, acceptedNodeId := 8,
      acceptedValue := [42], proposerId := 8 } (by decide)
  exact absurd same (by decide)

end PaxAcceptor

namespace PaxStore

/-- The log storage after a history of `WriteLog` calls. -/
def history (entries : List PaxosLogEntry) : PaxStore := entries.foldl writeLog fun _ => none

/-- The last record of one instance in a history. -/
def lastRecord (entries : List PaxosLogEntry) (instanceId : InstanceId) : Option PaxosLogEntry :=
  (entries.filter fun entry => entry.instanceId = instanceId).getLast?

/-- The largest instance id of a history that is not empty. -/
def newest (first : PaxosLogEntry) (rest : List PaxosLogEntry) : InstanceId :=
  HighWater.mark PaxosLogEntry.instanceId first.instanceId rest

/-- Under every instance a history holds the last record written for it. -/
theorem readLog_history (entries : List PaxosLogEntry) (instanceId : InstanceId) :
    readLog (history entries) instanceId = lastRecord entries instanceId := by
  induction entries using List.reverseRecOn with
  | nil => rfl
  | append_singleton entries entry ih =>
    have last : history (entries ++ [entry]) = writeLog (history entries) entry :=
      List.foldl_append
    rw [last, lastRecord, List.filter_append]
    by_cases same : entry.instanceId = instanceId
    · subst same
      rw [readLog_writeLog]
      simp
    · rw [readLog_writeLog_of_ne _ _ _ (Ne.symm same), ih]
      simp [same, lastRecord]

/-- The record read for an instance is a record of that instance. -/
theorem lastRecord_instanceId {entries : List PaxosLogEntry} {instanceId : InstanceId}
    {entry : PaxosLogEntry} (last : lastRecord entries instanceId = some entry) :
    entry.instanceId = instanceId := by
  have kept := List.mem_filter.mp (List.mem_of_getLast? last)
  simpa using kept.2

/-- The newest instance of a history has a last record. -/
theorem exists_lastRecord_newest (first : PaxosLogEntry) (rest : List PaxosLogEntry) :
    ∃ entry, lastRecord (first :: rest) (newest first rest) = some entry := by
  have named : ∃ entry ∈ first :: rest, entry.instanceId = newest first rest := by
    rcases HighWater.mark_mem PaxosLogEntry.instanceId first.instanceId rest with
      start | ⟨entry, written, same⟩
    · exact ⟨first, List.mem_cons_self, start.symm⟩
    · exact ⟨entry, List.mem_cons_of_mem _ written, same.symm⟩
  obtain ⟨entry, written, same⟩ := named
  have kept : entry ∈ (first :: rest).filter fun entry =>
      entry.instanceId = newest first rest := List.mem_filter.mpr ⟨written, by simpa using same⟩
  exact Option.ne_none_iff_exists'.mp fun none =>
    List.ne_nil_of_mem kept (List.getLast?_eq_none_iff.mp none)

/-- Only the newest instance of a history can be the largest instance id. -/
theorem lastRecord_of_newest_ne (first : PaxosLogEntry) (rest : List PaxosLogEntry)
    (smaller : newest first rest ≠ -1) : lastRecord (first :: rest) (-1) = none := by
  by_contra present
  obtain ⟨entry, last⟩ := Option.ne_none_iff_exists'.mp present
  have largest : entry.instanceId = -1 := lastRecord_instanceId last
  have written : entry ∈ first :: rest := List.mem_of_mem_filter (List.mem_of_getLast? last)
  have below : entry.instanceId ≤ newest first rest := by
    rcases List.mem_cons.mp written with rfl | later
    · exact HighWater.start_le_mark _ _ _
    · exact HighWater.key_le_mark _ _ _ entry later
  rw [largest] at below
  have above : newest first rest ≤ -1 := by
    rw [UInt64.le_iff_toNat_le]
    exact Nat.le_of_lt_succ (newest first rest).toNat_lt
  exact smaller (le_antisymm above below)

end PaxStore

namespace PaxAcceptor

open PaxStore

/-- A restart on a history resumes at its newest instance. -/
structure ResumesNewest (node : Node) (first : PaxosLogEntry) (rest : List PaxosLogEntry) :
    Prop where
  /-- The newest instance id is returned. -/
  returned : (init { node with storage := history (first :: rest) }).2 = newest first rest
  /-- The last record of the newest instance is loaded. -/
  loaded : ∀ entry, lastRecord (first :: rest) (newest first rest) = some entry →
    (init { node with storage := history (first :: rest) }).1.acceptor =
      { promisedProposalId := entry.promisedProposalId, promisedNodeId := entry.promisedNodeId,
        acceptedProposalId := entry.acceptedProposalId, acceptedProposer := entry.acceptedNodeId,
        acceptedValue := entry.acceptedValue }

/-- The newest instance is the largest id there is, and the accepted pair of its last record
repeats one word, or it is instance zero and its last record promises and accepts nothing. -/
def NewestIsRead (first : PaxosLogEntry) (rest : List PaxosLogEntry) : Prop :=
  ∀ entry, lastRecord (first :: rest) (newest first rest) = some entry →
    newest first rest = -1 ∧ entry.acceptedProposalId = entry.acceptedNodeId ∨
    newest first rest = 0 ∧ entry.promisedProposalId = proposalDummy ∧
      entry.promisedNodeId = nodeDummy ∧ entry.acceptedProposalId = proposalDummy ∧
      entry.acceptedNodeId = nodeDummy ∧ entry.acceptedValue = []

/-- What `PaxAcceptor::Init` loads is a record exactly when the record read agrees with it, its
accepted node in the place of the accepted number too. -/
theorem loads_iff (node : Node) (read loaded : PaxosLogEntry)
    (isRead : node.readState (-1) = read) :
    (init node).1.acceptor =
        { promisedProposalId := loaded.promisedProposalId,
          promisedNodeId := loaded.promisedNodeId,
          acceptedProposalId := loaded.acceptedProposalId,
          acceptedProposer := loaded.acceptedNodeId, acceptedValue := loaded.acceptedValue } ↔
      read.promisedProposalId = loaded.promisedProposalId ∧
        read.promisedNodeId = loaded.promisedNodeId ∧
        read.acceptedNodeId = loaded.acceptedProposalId ∧
        read.acceptedNodeId = loaded.acceptedNodeId ∧
        read.acceptedValue = loaded.acceptedValue := by
  rw [init, isRead]
  exact iff_of_eq (AcceptorState.mk.injEq ..)

/-- A restart resumes at the newest instance exactly in two corners: its id is the one that
`ReadState(-1)` names, or it is zero and nothing has been promised in it. -/
theorem resumesNewest_iff (node : Node) (first : PaxosLogEntry) (rest : List PaxosLogEntry) :
    ResumesNewest node first rest ↔ NewestIsRead first rest := by
  obtain ⟨entry, last⟩ := exists_lastRecord_newest first rest
  have named := lastRecord_instanceId last
  have read : ({ node with storage := history (first :: rest) } : Node).readState (-1) =
      (lastRecord (first :: rest) (-1)).getD {} := by
    rw [Node.readState, readLog_history]
  by_cases largest : newest first rest = -1
  · rw [largest] at last named
    rw [last, Option.getD_some] at read
    have unique (other : PaxosLogEntry)
        (isLast : lastRecord (first :: rest) (newest first rest) = some other) :
        entry = other := by
      rw [largest, last] at isLast
      exact Option.some.inj isLast
    constructor
    · intro resumes other isLast
      have loads := (loads_iff _ entry other read).mp (resumes.loaded other isLast)
      rw [unique other isLast] at loads
      exact .inl ⟨largest, loads.2.2.1.symm⟩
    · intro corner
      refine ⟨by rw [init, read, largest, named], fun other isLast => ?_⟩
      rcases corner other isLast with ⟨_, number⟩ | ⟨zero, _⟩
      · rw [loads_iff _ entry other read, unique other isLast]
        exact ⟨rfl, rfl, number.symm, rfl, rfl⟩
      · exact absurd (largest.symm.trans zero) (by decide)
  · have absent := lastRecord_of_newest_ne first rest largest
    rw [absent, Option.getD_none] at read
    constructor
    · intro resumes other isLast
      have returned := resumes.returned
      rw [init, read] at returned
      obtain ⟨promisedNumber, promisedNode, acceptedNumber, acceptedNode, value⟩ :=
        (loads_iff _ {} other read).mp (resumes.loaded other isLast)
      exact .inr ⟨returned.symm, promisedNumber.symm, promisedNode.symm, acceptedNumber.symm,
        acceptedNode.symm, value.symm⟩
    · intro corner
      refine ⟨?_, fun other isLast => ?_⟩
      · rcases corner entry last with ⟨same, _⟩ | ⟨zero, _⟩
        · exact absurd same largest
        · rw [init, read, zero]
      · rcases corner other isLast with ⟨same, _⟩ | ⟨_, promisedNumber, promisedNode,
          acceptedNumber, acceptedNode, value⟩
        · exact absurd same largest
        · rw [loads_iff _ {} other read]
          exact ⟨promisedNumber.symm, promisedNode.symm, acceptedNumber.symm, acceptedNode.symm,
            value.symm⟩

/-- A node that has promised in instance three comes back in instance zero. -/
theorem resumesNewest_forgets :
    ¬ ResumesNewest (Node.fresh sampleOptions 0)
      { instanceId := 3, promisedProposalId := 1, promisedNodeId := 7, proposerId := 7 } [] := by
  intro resumes
  exact absurd resumes.returned (by decide)

end PaxAcceptor
end Paxosme
