import Paxosme.Lib.Delivery

/-!
# Parties with mailboxes

A party may put a message aside when it comes and handle it later. Such a host behaves as another
party does, its guest, which handles messages as they come: it receives nothing but mail, and each
of its own steps is one in which the guest rests, receives a message that was put aside, or acts.
The lossy network may deliver a message at any time, so what it does with hosts it can do with their
guests.
-/

namespace Delivery

variable {Id Host Guest Input Action Msg : Type*}

/-- What the guest may do in a step of its host, given the mail. -/
inductive Party.Moves (guest : Party Id Guest Action Msg) (state : Guest) (mail : List Msg) :
    Guest × List (Post Id Msg) → Prop where
  | rest : Moves guest state mail (state, [])
  | receive (message : Msg) (kept : message ∈ mail) :
      Moves guest state mail (guest.receive state message)
  | act (action : Action) : Moves guest state mail (guest.act state action)

/-- A party hosts another one: in the states with an invariant, a message is put aside, and an input
moves the guest. -/
structure Party.Hosts (host : Party Id Host Input Msg) (guest : Party Id Guest Action Msg)
    (Inv : Host → Prop) (core : Host → Guest) (mail : Host → List Msg) : Prop where
  /-- The reaction to a message. -/
  receive : ∀ state message, Inv state →
    Inv (host.receive state message).1 ∧
      (∀ kept ∈ mail (host.receive state message).1, kept = message ∨ kept ∈ mail state) ∧
      core (host.receive state message).1 = core state ∧ (host.receive state message).2 = []
  /-- The reaction to an input. -/
  act : ∀ state input, Inv state →
    Inv (host.act state input).1 ∧
      (∀ kept ∈ mail (host.act state input).1, kept ∈ mail state) ∧
      guest.Moves (core state) (mail state)
        (core (host.act state input).1, (host.act state input).2)

/-- The air with the guests in place of their hosts. -/
def Air.guests (core : Host → Guest) (air : Air Id Host Msg) : Air Id Guest Msg :=
  ⟨fun id => core (air.states id), air.sent⟩

/-- The hosts keep an invariant, and all their mail has been posted to them. -/
def Air.Stamped (Inv : Host → Prop) (mail : Host → List Msg) (air : Air Id Host Msg) : Prop :=
  ∀ id, Inv (air.states id) ∧
    ∀ message ∈ mail (air.states id), ∃ post ∈ air.sent, post.message = message ∧ post.Reaches id

variable [DecidableEq Id]

/-- The reaction of a host is one of its guest, on the air. -/
theorem Air.guests_react (core : Host → Guest) (air : Air Id Host Msg) (id : Id)
    (reaction : Host × List (Post Id Msg)) :
    (air.react id reaction).guests core =
      (air.guests core).react id (core reaction.1, reaction.2) := by
  have states : (fun other => core (Function.update air.states id reaction.1 other)) =
      Function.update (fun other => core (air.states other)) id (core reaction.1) := by
    funext other
    by_cases same : other = id
    · rw [same, Function.update_self, Function.update_self]
    · rw [Function.update_of_ne same, Function.update_of_ne same]
  exact congrArg (fun states => (⟨states, air.sent ++ reaction.2⟩ : Air Id Guest Msg)) states

/-- Doing nothing leaves the air as it is. -/
theorem Air.react_rest (air : Air Id Guest Msg) (id : Id) :
    air.react id (air.states id, []) = air := by
  rw [react, Function.update_eq_self, List.append_nil]

variable {host : Party Id Host Input Msg} {guest : Party Id Guest Action Msg} {Inv : Host → Prop}
  {core : Host → Guest} {mail : Host → List Msg} {members : List Id}

/-- Mail that has been posted stays posted when one host reacts. -/
theorem Air.Stamped.react {air : Air Id Host Msg} (stamped : air.Stamped Inv mail) (id : Id)
    {reaction : Host × List (Post Id Msg)} (holds : Inv reaction.1)
    (posted : ∀ message ∈ mail reaction.1,
      ∃ post ∈ air.sent, post.message = message ∧ post.Reaches id) :
    (air.react id reaction).Stamped Inv mail := by
  have kept {other : Id} {message : Msg}
      (found : ∃ post ∈ air.sent, post.message = message ∧ post.Reaches other) :
      ∃ post ∈ (air.react id reaction).sent, post.message = message ∧ post.Reaches other := by
    obtain ⟨post, member, same⟩ := found
    exact ⟨post, List.mem_append_left _ member, same⟩
  intro other
  by_cases same : other = id
  · subst same
    have state : (air.react other reaction).states other = reaction.1 := Function.update_self ..
    rw [state]
    exact ⟨holds, fun message member => kept (posted message member)⟩
  · have state : (air.react id reaction).states other = air.states other :=
      Function.update_of_ne same ..
    rw [state]
    exact ⟨(stamped other).1, fun message member => kept ((stamped other).2 message member)⟩

/-- A step of the guests, or none. -/
theorem Party.Moves.lossy (air : Air Id Guest Msg) {id : Id} (member : id ∈ members)
    {letters : List Msg} {reaction : Guest × List (Post Id Msg)}
    (moves : guest.Moves (air.states id) letters reaction)
    (posted : ∀ message ∈ letters, ∃ post ∈ air.sent, post.message = message ∧ post.Reaches id) :
    Relation.ReflTransGen (LossyStep guest members) air (air.react id reaction) := by
  cases moves with
  | rest =>
    rw [air.react_rest id]
  | receive message kept =>
    obtain ⟨post, sent, rfl, reaches⟩ := posted message kept
    exact .single (.receive air id member post sent reaches)
  | act action => exact .single (.act air id member action)

/-- **A run of hosts is one of their guests.** -/
theorem Party.Hosts.lossy (hosts : host.Hosts guest Inv core mail) {air air' : Air Id Host Msg}
    (stamped : air.Stamped Inv mail)
    (run : Relation.ReflTransGen (LossyStep host members) air air') :
    Relation.ReflTransGen (LossyStep guest members) (air.guests core) (air'.guests core) ∧
      air'.Stamped Inv mail := by
  induction run with
  | refl => exact ⟨.refl, stamped⟩
  | @tail air' _ _ step ih =>
    obtain ⟨ran, stamped'⟩ := ih
    cases step with
    | receive id member post posted reaches =>
      obtain ⟨holds, kept, same, silent⟩ :=
        hosts.receive (air'.states id) post.message (stamped' id).1
      refine ⟨?_, stamped'.react id holds fun message letter => ?_⟩
      · rw [Air.guests_react, same, silent]
        have rests : (air'.guests core).react id (core (air'.states id), []) = air'.guests core :=
          (air'.guests core).react_rest id
        rw [rests]
        exact ran
      · rcases kept message letter with rfl | earlier
        · exact ⟨post, posted, rfl, reaches⟩
        · exact (stamped' id).2 message earlier
    | act id member input =>
      obtain ⟨holds, kept, moves⟩ := hosts.act (air'.states id) input (stamped' id).1
      refine ⟨?_, stamped'.react id holds fun message letter =>
        (stamped' id).2 message (kept message letter)⟩
      rw [Air.guests_react]
      exact ran.trans (moves.lossy (air'.guests core) member (stamped' id).2)

end Delivery
