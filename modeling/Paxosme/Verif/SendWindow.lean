import Paxosme.Verif.Transfer

/-!
# The window of a transfer

The sending thread waits while the instance it sent last is more than `LEAD_FOLLOW_DIS` ahead of
`ack_send_`. That member starts at the dummy, whatever instance the transfer begins at, and takes
any higher instance that the receiver names. So the difference counts the instances that are
really outstanding only while the transfer begins near what is acknowledged, or has gone on long
enough, and nothing beyond the last instance sent is acknowledged.
-/

namespace Paxosme
namespace SendWindow

open Transfer

/-- A sender, with the instances sent and those acknowledged in the transfer under way. -/
structure Watched where
  node : Node
  sent : List InstanceId := []
  acked : List InstanceId := []

/-- The instance that an event acknowledges: the job is being sent, and the receiver is the one
that answers. -/
def acknowledged (node : Node) : Transfer.Event → List InstanceId
  | .valueAck message =>
    if node.learner.jobStatus = .kSending ∧ node.learner.receiver = message.sender then
      [message.instanceId]
    else []
  | _ => []

/-- The state after an event. Without a job there is no transfer. -/
def step (watched : Watched) (event : Transfer.Event) : Watched :=
  let after := Transfer.step watched.node event
  if after.learner.jobStatus = .kStale then ⟨after, [], []⟩
  else ⟨after, watched.sent ++ (syncs (Node.callsSince watched.node after)).map Prod.snd,
    watched.acked ++ acknowledged watched.node event⟩

/-- The instances sent in this transfer that are beyond every acknowledged one. -/
def beyond (watched : Watched) : List InstanceId :=
  watched.sent.filter fun sent => ∀ acked ∈ watched.acked, acked < sent

/-- What is promised where the thread compares the last instance sent with the acknowledged
one. -/
structure WindowSound (watched : Watched) : Prop where
  /-- The difference does not wrap round. -/
  noWrap : ∀ lastSend toSend receiver,
    watched.node.learner.sendingPoint = .awaitAck lastSend toSend receiver →
      watched.node.learner.ackSend ≤ lastSend
  /-- The thread waits only while more instances than the window are outstanding. -/
  waits : ∀ lastSend toSend receiver,
    watched.node.learner.sendingPoint = .awaitAck lastSend toSend receiver →
      PaxLearner.leadFollowDis < lastSend - watched.node.learner.ackSend →
        PaxLearner.leadFollowDis.toNat < (beyond watched).length
  /-- It does not wait once the last instance sent or a later one is acknowledged. -/
  ahead : ∀ lastSend toSend receiver,
    watched.node.learner.sendingPoint = .awaitAck lastSend toSend receiver →
      (∃ acked ∈ watched.acked, lastSend ≤ acked) →
        ¬ PaxLearner.leadFollowDis < lastSend - watched.node.learner.ackSend

/-- An instance sent last is in the window: it is not below the acknowledged one, and it is near
that, or the transfer began near that, or it has sent more instances than the window. -/
def Near (learner : PaxLearner) (lastSend : InstanceId) : Prop :=
  learner.ackSend ≤ lastSend ∧
    (lastSend.toNat ≤ learner.ackSend.toNat + 10 ∨
      learner.beginInstanceId.toNat ≤ learner.ackSend.toNat + 1 ∨
      learner.beginInstanceId.toNat + 10 ≤ lastSend.toNat)

/-- A value is sent in the window, and none beyond the last one sent is acknowledged while the
thread compares. -/
def InWindow (node : Node) : Transfer.Event → Prop
  | .sending _ => ∀ toSend receiver, node.learner.sendingPoint = .loopHead toSend receiver →
    toSend < node.instanceId → Near node.learner toSend
  | .valueAck message => ∀ lastSend toSend receiver,
    node.learner.sendingPoint = .awaitAck lastSend toSend receiver →
      node.learner.receiver = message.sender → message.instanceId ≤ lastSend
  | _ => True

/-- The instances sent so far are those from the first one on. -/
def Numbered (first toSend : InstanceId) (sent : List InstanceId) : Prop :=
  first ≤ toSend ∧
    sent = (List.range' first.toNat (toSend.toNat - first.toNat)).map UInt64.ofNat

/-- What has been sent at a point of the sending thread. -/
def SentSoFar (learner : PaxLearner) (sent : List InstanceId) : Prop :=
  match learner.sendingPoint with
  | .loopHead toSend _ => Numbered learner.beginInstanceId toSend sent
  | .awaitAck lastSend toSend _ => Numbered learner.beginInstanceId toSend sent ∧
    learner.beginInstanceId ≤ lastSend ∧ toSend.toNat = lastSend.toNat + 1
  | .clear => True
  | _ => sent = []

/-- What has been sent and acknowledged agrees with the members of the learner. -/
structure Tracks (watched : Watched) : Prop where
  settled : Settled watched.node.learner
  sent : SentSoFar watched.node.learner watched.sent
  bound : ∀ acked ∈ watched.acked, acked ≤ watched.node.learner.ackSend
  attained : watched.node.learner.ackSend ∈ watched.acked ∨
    watched.node.learner.ackSend = instanceDummy

/-- One more instance is sent. -/
theorem Numbered.next {first toSend : InstanceId} {sent : List InstanceId}
    (numbered : Numbered first toSend sent) (room : (toSend + 1).toNat = toSend.toNat + 1) :
    Numbered first (toSend + 1) (sent ++ [toSend]) := by
  obtain ⟨above, rfl⟩ := numbered
  have above' := UInt64.le_iff_toNat_le.mp above
  refine ⟨?_, ?_⟩
  · rw [UInt64.le_iff_toNat_le, room]
    omega
  · have count : (toSend + 1).toNat - first.toNat = toSend.toNat - first.toNat + 1 := by omega
    have last : first.toNat + (toSend.toNat - first.toNat) = toSend.toNat := by omega
    rw [count, List.range'_concat, Nat.one_mul, last, List.map_append, List.map_singleton,
      UInt64.ofNat_toNat]

/-- The instances of a range that are above one. -/
theorem length_filter_range' (bound first count : Nat) :
    ((List.range' first count).filter fun number => bound < number).length =
      first + count - max first (bound + 1) := by
  induction count generalizing first with
  | zero => simp
  | succ count ih =>
    rw [List.range'_succ, List.filter_cons]
    by_cases above : bound < first
    · rw [if_pos (by simpa using above), List.length_cons, ih]
      omega
    · rw [if_neg (by simpa using above), ih]
      omega

/-- An instance is beyond all acknowledged ones exactly when it is beyond the member, unless
nothing has been acknowledged. -/
theorem Tracks.beyond_iff {watched : Watched} (tracks : Tracks watched)
    (answered : watched.acked ≠ []) (sent : InstanceId) :
    (∀ acked ∈ watched.acked, acked < sent) ↔ watched.node.learner.ackSend < sent := by
  constructor
  · intro above
    rcases tracks.attained with member | dummy
    · exact above _ member
    · obtain ⟨acked, member⟩ := List.exists_mem_of_ne_nil _ answered
      have lower := UInt64.lt_iff_toNat_lt.mp (above acked member)
      rw [dummy, UInt64.lt_iff_toNat_lt]
      exact lt_of_le_of_lt (Nat.zero_le _) lower
  · intro above acked member
    exact UInt64.lt_of_le_of_lt (tracks.bound acked member) above

/-- How many instances are outstanding: all that were sent, or those above the acknowledged
one. -/
theorem Tracks.length_beyond {watched : Watched} (tracks : Tracks watched) {toSend : InstanceId}
    (numbered : Numbered watched.node.learner.beginInstanceId toSend watched.sent) :
    (beyond watched).length =
      if watched.acked = [] then
        toSend.toNat - watched.node.learner.beginInstanceId.toNat
      else toSend.toNat - max watched.node.learner.beginInstanceId.toNat
        (watched.node.learner.ackSend.toNat + 1) := by
  obtain ⟨above, sent⟩ := numbered
  have above' := UInt64.le_iff_toNat_le.mp above
  have size := toSend.toNat_lt
  by_cases none : watched.acked = []
  · rw [if_pos none, beyond, sent, none]
    simp
  · rw [if_neg none, beyond, sent, List.filter_map, List.length_map]
    have judged : (List.range' watched.node.learner.beginInstanceId.toNat
        (toSend.toNat - watched.node.learner.beginInstanceId.toNat)).filter
          ((fun sent => decide (∀ acked ∈ watched.acked, acked < sent)) ∘ UInt64.ofNat) =
        (List.range' watched.node.learner.beginInstanceId.toNat
          (toSend.toNat - watched.node.learner.beginInstanceId.toNat)).filter
            fun number => watched.node.learner.ackSend.toNat < number := by
      refine List.filter_congr fun number member => ?_
      have inside := (List.mem_range'_1.mp member).2
      have small : number < 2 ^ 64 := by omega
      have word : (UInt64.ofNat number).toNat = number := UInt64.toNat_ofNat_of_lt' small
      rw [Function.comp_apply, decide_eq_decide, tracks.beyond_iff none, UInt64.lt_iff_toNat_lt,
        word]
    rw [judged, length_filter_range']
    omega

/-- A difference that does not wrap round. -/
theorem lt_sub_iff {acked lastSend : InstanceId} (inside : acked ≤ lastSend) :
    PaxLearner.leadFollowDis < lastSend - acked ↔ acked.toNat + 10 < lastSend.toNat := by
  have window : PaxLearner.leadFollowDis.toNat = 10 := rfl
  have inside' := UInt64.le_iff_toNat_le.mp inside
  rw [UInt64.lt_iff_toNat_lt, UInt64.toNat_sub_of_le _ _ inside, window]
  omega

/-- Where the thread compares, more instances than the window are outstanding exactly when the
transfer began near the acknowledged instance or has sent more than that. -/
theorem Tracks.outstanding_iff {watched : Watched} (tracks : Tracks watched)
    {lastSend toSend : InstanceId}
    (numbered : Numbered watched.node.learner.beginInstanceId toSend watched.sent)
    (first : watched.node.learner.beginInstanceId ≤ lastSend)
    (next : toSend.toNat = lastSend.toNat + 1)
    (far : watched.node.learner.ackSend.toNat + 10 < lastSend.toNat) :
    PaxLearner.leadFollowDis.toNat < (beyond watched).length ↔
      watched.node.learner.beginInstanceId.toNat ≤ watched.node.learner.ackSend.toNat + 1 ∨
        watched.node.learner.beginInstanceId.toNat + 10 ≤ lastSend.toNat := by
  have window : PaxLearner.leadFollowDis.toNat = 10 := rfl
  have first' := UInt64.le_iff_toNat_le.mp first
  rw [tracks.length_beyond numbered, window, next]
  by_cases none : watched.acked = []
  · have dummy : watched.node.learner.ackSend.toNat = 0 := by
      have attained := tracks.attained
      rw [none] at attained
      rcases attained with member | dummy
      · exact absurd member List.not_mem_nil
      · rw [dummy]
        rfl
    rw [if_pos none]
    omega
  · rw [if_neg none]
    omega

/-- Where the thread compares, the window is sound exactly when the last instance is in it. -/
theorem Tracks.windowSound_iff {watched : Watched} (tracks : Tracks watched) :
    WindowSound watched ↔ ∀ lastSend toSend receiver,
      watched.node.learner.sendingPoint = .awaitAck lastSend toSend receiver →
        Near watched.node.learner lastSend := by
  have sent := tracks.sent
  constructor
  · intro sound lastSend toSend receiver point
    rw [SentSoFar, point] at sent
    obtain ⟨numbered, first, next⟩ := sent
    have inside := sound.noWrap lastSend toSend receiver point
    refine ⟨inside, ?_⟩
    by_cases far : watched.node.learner.ackSend.toNat + 10 < lastSend.toNat
    · have outstanding := sound.waits lastSend toSend receiver point ((lt_sub_iff inside).mpr far)
      exact .inr ((tracks.outstanding_iff numbered first next far).mp outstanding)
    · exact .inl (Nat.not_lt.mp far)
  · intro near
    constructor
    · intro lastSend toSend receiver point
      exact (near lastSend toSend receiver point).1
    · intro lastSend toSend receiver point waiting
      rw [SentSoFar, point] at sent
      obtain ⟨numbered, first, next⟩ := sent
      obtain ⟨inside, close⟩ := near lastSend toSend receiver point
      have far := (lt_sub_iff inside).mp waiting
      exact (tracks.outstanding_iff numbered first next far).mpr
        (close.resolve_left (Nat.not_le.mpr far))
    · rintro lastSend toSend receiver point ⟨acked, member, above⟩ waiting
      have inside := (near lastSend toSend receiver point).1
      have far := (lt_sub_iff inside).mp waiting
      have bound := UInt64.le_iff_toNat_le.mp (tracks.bound acked member)
      have above' := UInt64.le_iff_toNat_le.mp above
      omega

/-! ## One event -/

@[simp] theorem step_node (watched : Watched) (event : Transfer.Event) :
    (step watched event).node = Transfer.step watched.node event := by
  rw [step]
  split
  · rfl
  · rfl

/-- An event that sends and acknowledges nothing. -/
theorem Tracks.silent {watched : Watched} (tracks : Tracks watched) {event : Transfer.Event}
    (busy : (Transfer.step watched.node event).learner.jobStatus ≠ .kStale)
    (calls : (Transfer.step watched.node event).calls = watched.node.calls)
    (quiet : acknowledged watched.node event = [])
    (acked : (Transfer.step watched.node event).learner.ackSend = watched.node.learner.ackSend)
    (sent : SentSoFar (Transfer.step watched.node event).learner watched.sent) :
    Tracks (step watched event) := by
  have since : Node.callsSince watched.node (Transfer.step watched.node event) = [] :=
    Node.callsSince_of_append (calls.trans (List.append_nil _).symm)
  rw [step, if_neg busy, since, quiet]
  refine ⟨tracks.settled.step event, ?_, ?_, ?_⟩
  · rw [syncs, List.filterMap_nil, List.map_nil, List.append_nil]
    exact sent
  · rw [List.append_nil, acked]
    exact tracks.bound
  · rw [List.append_nil, acked]
    exact tracks.attained

/-- A step of the sending thread that sends nothing keeps what has been sent. -/
theorem sentSoFar_sendingStep {node : Node} (settled : Settled node.learner) (tooSlow : Bool)
    {sent : List InstanceId} (sentSoFar : SentSoFar node.learner sent)
    (busy : (PaxLearner.sendingStep node tooSlow).learner.jobStatus ≠ .kStale)
    (silent : (PaxLearner.sendingStep node tooSlow).calls = node.calls) :
    SentSoFar (PaxLearner.sendingStep node tooSlow).learner sent := by
  unfold PaxLearner.sendingStep at busy silent ⊢
  cases point : node.learner.sendingPoint with
  | waitForReady =>
    have none : sent = [] := by simpa [SentSoFar, point] using sentSoFar
    simp only
    split
    · exact none
    · exact sentSoFar
  | call =>
    have none : sent = [] := by simpa [SentSoFar, point] using sentSoFar
    exact none
  | matchReceiver beginInstanceId receiver =>
    have none : sent = [] := by simpa [SentSoFar, point] using sentSoFar
    have first := settled.first beginInstanceId receiver point
    simp only
    split
    · trivial
    · simp [SentSoFar, PaxLearner.withLearner, Numbered, none, first]
  | loopHead toSend receiver =>
    by_cases left : toSend < node.instanceId
    · simp [point, left, PaxLearner.sendLearnedValue, PaxLearner.withLearner, Node.sendMessage,
        Node.record] at silent
    · simp only [left, if_false]
      trivial
  | awaitAck lastSend toSend receiver =>
    have numbered : Numbered node.learner.beginInstanceId toSend sent := by
      rw [SentSoFar, point] at sentSoFar
      exact sentSoFar.1
    simp only
    split
    · split
      · trivial
      · exact sentSoFar
    · exact numbered
  | clear => simp [point, PaxLearner.clearSendingState, PaxLearner.withLearner] at busy

/-- A step of the sending thread that does not end the job. -/
theorem Tracks.sendingStep {watched : Watched} (tracks : Tracks watched) (tooSlow : Bool)
    (busy : (Transfer.step watched.node (.sending tooSlow)).learner.jobStatus ≠ .kStale) :
    Tracks (step watched (.sending tooSlow)) := by
  rcases PaxLearner.sendingStep_calls watched.node tooSlow with
    silent | ⟨toSend, receiver, message, point, left, kind, named, appended, learner⟩
  · rcases sendingStep_shared watched.node tooSlow with cleared | ⟨-, -, acked⟩
    · exact absurd cleared busy
    · exact tracks.silent busy silent rfl acked
        (sentSoFar_sendingStep tracks.settled tooSlow tracks.sent busy silent)
  · have sent := tracks.sent
    rw [SentSoFar, point] at sent
    have room : (toSend + 1).toNat = toSend.toNat + 1 := by
      have below := UInt64.lt_iff_toNat_lt.mp left
      have size := watched.node.instanceId.toNat_lt
      have sum : (toSend + 1).toNat = (toSend.toNat + 1) % 2 ^ 64 := UInt64.toNat_add toSend 1
      rw [sum]
      exact Nat.mod_eq_of_lt (by omega)
    have since : Node.callsSince watched.node (Transfer.step watched.node (.sending tooSlow)) =
        [.send receiver message] :=
      Node.callsSince_of_append appended
    have learner' : (Transfer.step watched.node (.sending tooSlow)).learner =
        { watched.node.learner with sendingPoint := .awaitAck toSend (toSend + 1) receiver } :=
      learner
    have one : (syncs [.send receiver message]).map Prod.snd = [toSend] := by
      simp [syncs, kind, named]
    have quiet : acknowledged watched.node (.sending tooSlow) = [] := rfl
    have settled := tracks.settled.step (.sending tooSlow)
    rw [step, if_neg busy, since, one, quiet, List.append_nil]
    rw [learner'] at settled
    refine ⟨?_, ?_, ?_, ?_⟩
    · show Settled (Transfer.step watched.node (.sending tooSlow)).learner
      rw [learner']
      exact settled
    · show SentSoFar (Transfer.step watched.node (.sending tooSlow)).learner _
      rw [learner']
      exact ⟨sent.next room, sent.1, room⟩
    · show ∀ acked ∈ watched.acked,
        acked ≤ (Transfer.step watched.node (.sending tooSlow)).learner.ackSend
      rw [learner']
      exact tracks.bound
    · show (Transfer.step watched.node (.sending tooSlow)).learner.ackSend ∈ watched.acked ∨
        (Transfer.step watched.node (.sending tooSlow)).learner.ackSend = instanceDummy
      rw [learner']
      exact tracks.attained

/-- An acknowledgement of a job that goes on. -/
theorem Tracks.valueAck {watched : Watched} (tracks : Tracks watched) (message : PaxMessage)
    (busy : (Transfer.step watched.node (.valueAck message)).learner.jobStatus ≠ .kStale) :
    Tracks (step watched (.valueAck message)) := by
  by_cases accepted : watched.node.learner.jobStatus = .kSending ∧
      watched.node.learner.receiver = message.sender
  · have passes : ¬ (watched.node.learner.jobStatus ≠ .kSending ∨
        watched.node.learner.receiver ≠ message.sender) := by
      rintro (status | receiver)
      · exact status accepted.1
      · exact receiver accepted.2
    have calls := step_calls watched.node (.valueAck message) (by simp)
    have since : Node.callsSince watched.node (Transfer.step watched.node (.valueAck message)) =
        [] :=
      Node.callsSince_of_append (calls.trans (List.append_nil _).symm)
    have settled := tracks.settled.step (.valueAck message)
    rw [step, if_neg busy, since, acknowledged, if_pos accepted, syncs, List.filterMap_nil,
      List.map_nil, List.append_nil]
    simp only [Transfer.step, PaxLearner.handleValueAck, if_neg passes] at settled ⊢
    by_cases higher : watched.node.learner.ackSend < message.instanceId
    · rw [if_pos higher] at settled ⊢
      refine ⟨settled, tracks.sent, fun acked member => ?_, .inl (by simp [PaxLearner.withLearner])⟩
      rcases List.mem_append.mp member with old | new
      · exact UInt64.le_trans (tracks.bound acked old) (UInt64.le_of_lt higher)
      · rw [List.mem_singleton.mp new]
        exact UInt64.le_refl _
    · rw [if_neg higher] at settled ⊢
      refine ⟨settled, tracks.sent, fun acked member => ?_,
        tracks.attained.imp_left (List.mem_append_left _)⟩
      rcases List.mem_append.mp member with old | new
      · exact tracks.bound acked old
      · rw [List.mem_singleton.mp new]
        exact UInt64.not_lt.mp higher
  · have ignored : watched.node.learner.jobStatus ≠ .kSending ∨
        watched.node.learner.receiver ≠ message.sender := by
      by_contra passes
      obtain ⟨status, receiver⟩ := not_or.mp passes
      exact accepted ⟨not_not.mp status, not_not.mp receiver⟩
    have same : Transfer.step watched.node (.valueAck message) = watched.node := by
      rw [Transfer.step, PaxLearner.handleValueAck, if_pos ignored]
    exact tracks.silent busy (by rw [same]) (if_neg accepted) (by rw [same])
      (by rw [same]; exact tracks.sent)

/-- Every event keeps what has been sent and acknowledged. -/
theorem Tracks.step {watched : Watched} (tracks : Tracks watched) (event : Transfer.Event) :
    Tracks (SendWindow.step watched event) := by
  by_cases stale : (Transfer.step watched.node event).learner.jobStatus = .kStale
  · have settled := tracks.settled.step event
    have waiting := settled.waits stale
    rw [SendWindow.step, if_pos stale]
    refine ⟨settled, ?_, by simp, .inr (settled.stale stale).2.2⟩
    simp [SentSoFar, waiting]
  · cases event with
    | sending tooSlow => exact tracks.sendingStep tooSlow stale
    | valueAck message => exact tracks.valueAck message stale
    | confirmLearn message =>
      have calls := step_calls watched.node (.confirmLearn message) (by simp)
      by_cases idle : watched.node.learner.jobStatus = .kStale
      · have waiting := tracks.settled.waits idle
        have none : watched.sent = [] := by
          have sent := tracks.sent
          rwa [SentSoFar, waiting] at sent
        refine tracks.silent stale calls rfl ?_ ?_
        · simp [Transfer.step, PaxLearner.handleConfirmLearn, PaxLearner.makeSenderReady, idle,
            PaxLearner.withLearner]
        · simp [Transfer.step, PaxLearner.handleConfirmLearn, PaxLearner.makeSenderReady, idle,
            PaxLearner.withLearner, SentSoFar, waiting, none]
      · have same : Transfer.step watched.node (.confirmLearn message) = watched.node := by
          rw [Transfer.step, PaxLearner.handleConfirmLearn, PaxLearner.makeSenderReady,
            if_pos idle]
        exact tracks.silent stale calls rfl (by rw [same]) (by rw [same]; exact tracks.sent)
    | nextInstance => exact tracks.silent stale rfl rfl rfl tracks.sent

/-- The last instance sent is in the window where the thread compares. -/
def ComparesNear (learner : PaxLearner) : Prop :=
  ∀ lastSend toSend receiver, learner.sendingPoint = .awaitAck lastSend toSend receiver →
    Near learner lastSend

/-- What a step of the sending thread makes of the window. -/
theorem comparesNear_sendingStep_iff {node : Node} (near : ComparesNear node.learner)
    (tooSlow : Bool) :
    ComparesNear (PaxLearner.sendingStep node tooSlow).learner ↔
      InWindow node (.sending tooSlow) := by
  cases point : node.learner.sendingPoint with
  | loopHead toSend receiver =>
    by_cases left : toSend < node.instanceId
    · have after : (PaxLearner.sendingStep node tooSlow).learner =
          { node.learner with sendingPoint := .awaitAck toSend (toSend + 1) receiver } := by
        simp [PaxLearner.sendingStep, point, left, PaxLearner.sendLearnedValue,
          PaxLearner.withLearner, Node.sendMessage, Node.record]
      rw [after]
      constructor
      · intro compares lastSend other same _
        obtain ⟨rfl, -⟩ := SendingPoint.loopHead.inj (point.symm.trans same)
        exact compares toSend (toSend + 1) receiver rfl
      · intro inWindow lastSend next other same
        obtain ⟨rfl, -⟩ := SendingPoint.awaitAck.inj same
        exact inWindow toSend receiver point left
    · refine iff_of_true ?_ ?_
      · intro lastSend next other same
        simp [PaxLearner.sendingStep, point, left, PaxLearner.withLearner] at same
      · intro lastSend other same left'
        obtain ⟨rfl, -⟩ := SendingPoint.loopHead.inj (point.symm.trans same)
        exact absurd left' left
  | awaitAck lastSend toSend receiver =>
    refine iff_of_true ?_ ?_
    · by_cases far : PaxLearner.leadFollowDis < lastSend - node.learner.ackSend
      · cases tooSlow with
        | false =>
          have same : PaxLearner.sendingStep node false = node := by
            simp [PaxLearner.sendingStep, point, far]
          rwa [same]
        | true =>
          intro other next receiver' same
          simp [PaxLearner.sendingStep, point, far, PaxLearner.withLearner] at same
      · intro other next receiver' same
        simp [PaxLearner.sendingStep, point, far, PaxLearner.withLearner] at same
    · intro other receiver' same
      rw [point] at same
      cases same
  | waitForReady =>
    refine iff_of_true ?_ (fun _ _ same => by simp [point] at same)
    by_cases prepared : node.learner.jobStatus = .kPrepared
    · intro lastSend toSend receiver same
      simp [PaxLearner.sendingStep, point, prepared, PaxLearner.withLearner] at same
    · have same : PaxLearner.sendingStep node tooSlow = node := by
        simp [PaxLearner.sendingStep, point, prepared]
      rwa [same]
  | call =>
    refine iff_of_true ?_ (fun _ _ same => by simp [point] at same)
    intro lastSend toSend receiver same
    simp [PaxLearner.sendingStep, point, PaxLearner.withLearner] at same
  | matchReceiver beginInstanceId receiver =>
    refine iff_of_true ?_ (fun _ _ same => by simp [point] at same)
    intro lastSend toSend receiver' same
    by_cases moved : node.learner.receiver = receiver
    · simp [PaxLearner.sendingStep, point, moved, PaxLearner.withLearner] at same
    · simp [PaxLearner.sendingStep, point, moved, PaxLearner.withLearner] at same
  | clear =>
    refine iff_of_true ?_ (fun _ _ same => by simp [point] at same)
    intro lastSend toSend receiver same
    simp [PaxLearner.sendingStep, point, PaxLearner.withLearner] at same

/-- A confirmation is taken while the thread waits for a job, if at all. -/
theorem comparesNear_confirmLearn {node : Node} (settled : Settled node.learner)
    (near : ComparesNear node.learner) (message : PaxMessage) :
    ComparesNear (PaxLearner.handleConfirmLearn node message).learner := by
  by_cases stale : node.learner.jobStatus = .kStale
  · have waiting := settled.waits stale
    intro lastSend toSend receiver same
    simp [PaxLearner.handleConfirmLearn, PaxLearner.makeSenderReady, stale, waiting,
      PaxLearner.withLearner] at same
  · have same : PaxLearner.handleConfirmLearn node message = node := by
      rw [PaxLearner.handleConfirmLearn, PaxLearner.makeSenderReady, if_pos stale]
    rwa [same]

/-- What an acknowledgement makes of the window. -/
theorem comparesNear_valueAck_iff {node : Node} (settled : Settled node.learner)
    (near : ComparesNear node.learner) (message : PaxMessage) :
    ComparesNear (PaxLearner.handleValueAck node message).learner ↔
      InWindow node (.valueAck message) := by
  by_cases accepted : node.learner.jobStatus = .kSending ∧ node.learner.receiver = message.sender
  · by_cases higher : node.learner.ackSend < message.instanceId
    · have after : (PaxLearner.handleValueAck node message).learner =
          { node.learner with ackSend := message.instanceId } := by
        simp [PaxLearner.handleValueAck, accepted, higher, PaxLearner.withLearner]
      have raised := UInt64.lt_iff_toNat_lt.mp higher
      rw [after]
      constructor
      · intro compares lastSend toSend receiver point _
        exact (compares lastSend toSend receiver point).1
      · intro inWindow lastSend toSend receiver point
        have inside := inWindow lastSend toSend receiver point accepted.2
        have close := (near lastSend toSend receiver point).2
        refine ⟨inside, ?_⟩
        show lastSend.toNat ≤ message.instanceId.toNat + 10 ∨
          node.learner.beginInstanceId.toNat ≤ message.instanceId.toNat + 1 ∨
            node.learner.beginInstanceId.toNat + 10 ≤ lastSend.toNat
        omega
    · have same : PaxLearner.handleValueAck node message = node := by
        simp [PaxLearner.handleValueAck, higher]
      rw [same]
      refine iff_of_true near ?_
      intro lastSend toSend receiver point _
      exact UInt64.le_trans (UInt64.not_lt.mp higher) (near lastSend toSend receiver point).1
  · have same : PaxLearner.handleValueAck node message = node := by
      refine if_pos ?_
      by_contra passes
      obtain ⟨status, receiver⟩ := not_or.mp passes
      exact accepted ⟨not_not.mp status, not_not.mp receiver⟩
    rw [same]
    refine iff_of_true near ?_
    intro lastSend toSend receiver point sender
    have sending := settled.running (by rw [point]; simp)
    exact absurd ⟨sending, sender⟩ accepted

/-- An event of a sound window ends in one exactly when it is in the window. -/
theorem Tracks.windowSound_step_iff {watched : Watched} (tracks : Tracks watched)
    (sound : WindowSound watched) (event : Transfer.Event) :
    WindowSound (SendWindow.step watched event) ↔ InWindow watched.node event := by
  rw [(tracks.step event).windowSound_iff, step_node]
  have near : ComparesNear watched.node.learner := tracks.windowSound_iff.mp sound
  cases event with
  | sending tooSlow => exact comparesNear_sendingStep_iff near tooSlow
  | confirmLearn message =>
    exact iff_of_true (comparesNear_confirmLearn tracks.settled near message) trivial
  | valueAck message => exact comparesNear_valueAck_iff tracks.settled near message
  | nextInstance => exact iff_of_true near trivial

/-! ## A whole run -/

/-- A learner without a job has sent nothing. -/
theorem tracks_idle (node : Node) : Tracks ⟨idle node, [], []⟩ :=
  ⟨settled_idle node, rfl, by simp, .inr rfl⟩

/-- The window is sound after every part of a run exactly when each value is sent in it and
nothing beyond the last value is acknowledged. -/
theorem windowSound_iff_inWindow (node : Node) (events : List Transfer.Event) :
    (∀ earlier later, events = earlier ++ later →
        WindowSound (Runs.run step ⟨idle node, [], []⟩ earlier)) ↔
      Runs.Along step (fun watched event => InWindow watched.node event) ⟨idle node, [], []⟩
        events := by
  have tracks := tracks_idle node
  have sound : WindowSound ⟨idle node, [], []⟩ :=
    tracks.windowSound_iff.mpr fun _ _ _ point => by
      simp [idle, PaxLearner.withLearner] at point
  have agree : ∀ watched event, Tracks watched ∧ WindowSound watched →
      (WindowSound (step watched event) ↔ InWindow watched.node event) :=
    fun _ event holds => holds.1.windowSound_step_iff holds.2 event
  rw [Runs.always_iff, and_iff_right sound]
  refine Runs.along_congr agree (fun watched event holds inWindow => ?_) _ events ⟨tracks, sound⟩
  exact ⟨holds.1.step event, (agree watched event holds).mpr inWindow⟩

/-- A transfer that begins at instance 990: the thread waits after a single value, whose distance
to the dummy is more than the window. -/
theorem windowSound_not_begun_late :
    ¬ ∀ node events earlier later, events = earlier ++ later →
      WindowSound (Runs.run step ⟨idle node, [], []⟩ earlier) := by
  intro sound
  have waits := (sound (Node.fresh ⟨1, 1 / 2, 3, 0⟩ 1000)
    [.confirmLearn { PaxMessage.new 2 .confirmLearn with instanceId := 990 },
      .sending false, .sending false, .sending false, .sending false] _ []
    (List.append_nil _).symm).waits 990 991 2 rfl (by decide)
  have one := List.length_filter_le
    (fun sent => decide (∀ acked ∈ ([] : List InstanceId), acked < sent)) [990]
  have many := Nat.lt_of_lt_of_le waits one
  exact absurd many (by decide)

end SendWindow
end Paxosme
