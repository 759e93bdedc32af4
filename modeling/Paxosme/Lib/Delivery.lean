import Mathlib

/-!
# Parties that exchange messages

A party reacts to a message or to an input of its own by a new state and by posts, each to
one party or to all. Two networks carry the posts. The lossy one may deliver every post ever
made, to whom it reaches, at any time and any number of times. The ordered one delivers each
packet exactly once, keeps the order between two parties and hands the sender its own copy of
a broadcast before the others. An invariant of the states together with a property of the
messages is proved once for a party and holds then in both networks.
-/

namespace Delivery

variable {Id State Input Msg : Type*}

/-- A message on its way to one party or to all. -/
inductive Post (Id Msg : Type*) where
  | unicast (target : Id) (message : Msg)
  | broadcast (message : Msg)
  deriving DecidableEq

/-- The message of a post. -/
def Post.message : Post Id Msg → Msg
  | .unicast _ message => message
  | .broadcast message => message

/-- A post is for a party. -/
def Post.Reaches (id : Id) : Post Id Msg → Prop
  | .unicast target _ => target = id
  | .broadcast _ => True

/-- What every party does with a message and with an input of its own. -/
structure Party (Id State Input Msg : Type*) where
  /-- The reaction to a message. -/
  receive : State → Msg → State × List (Post Id Msg)
  /-- The reaction to an input. -/
  act : State → Input → State × List (Post Id Msg)

/-- A reaction keeps an invariant and posts only messages with a property. -/
def Keeps (Inv : State → Prop) (Good : Msg → Prop) (reaction : State × List (Post Id Msg)) :
    Prop :=
  Inv reaction.1 ∧ ∀ post ∈ reaction.2, Good post.message

/-- Both reactions of a party keep an invariant, given messages with a property, and post
such messages. -/
structure Party.Preserves (party : Party Id State Input Msg) (Inv : State → Prop)
    (Good : Msg → Prop) : Prop where
  /-- The reaction to a message. -/
  receive : ∀ state message, Inv state → Good message → Keeps Inv Good (party.receive state message)
  /-- The reaction to an input. -/
  act : ∀ state input, Inv state → Keeps Inv Good (party.act state input)

/-- An invariant of all states survives the update of one. -/
theorem forall_update [DecidableEq Id] {Inv : State → Prop} {states : Id → State}
    (all : ∀ id, Inv (states id)) (id : Id) {state : State} (one : Inv state) :
    ∀ other, Inv (Function.update states id state other) := by
  intro other
  by_cases same : other = id
  · rw [same, Function.update_self]
    exact one
  · rw [Function.update_of_ne same]
    exact all other

section Lossy

/-- The states of the parties and everything posted so far. -/
structure Air (Id State Msg : Type*) where
  /-- The states. -/
  states : Id → State
  /-- The posts, oldest first. -/
  sent : List (Post Id Msg)

/-- One party's reaction, on the air. -/
def Air.react [DecidableEq Id] (air : Air Id State Msg) (id : Id)
    (reaction : State × List (Post Id Msg)) : Air Id State Msg :=
  ⟨Function.update air.states id reaction.1, air.sent ++ reaction.2⟩

/-- A step of the lossy network. -/
inductive LossyStep [DecidableEq Id] (party : Party Id State Input Msg) (members : List Id) :
    Air Id State Msg → Air Id State Msg → Prop where
  | receive (air : Air Id State Msg) (id : Id) (member : id ∈ members) (post : Post Id Msg)
      (posted : post ∈ air.sent) (reaches : post.Reaches id) :
      LossyStep party members air (air.react id (party.receive (air.states id) post.message))
  | act (air : Air Id State Msg) (id : Id) (member : id ∈ members) (input : Input) :
      LossyStep party members air (air.react id (party.act (air.states id) input))

variable [DecidableEq Id] {party : Party Id State Input Msg} {members : List Id}
  {Inv : State → Prop} {Good : Msg → Prop}

/-- All states keep the invariant and all posts have the property. -/
def Air.Sound (Inv : State → Prop) (Good : Msg → Prop) (air : Air Id State Msg) : Prop :=
  (∀ id, Inv (air.states id)) ∧ ∀ post ∈ air.sent, Good post.message

/-- One reaction keeps the air sound. -/
theorem Air.Sound.react {air : Air Id State Msg} (sound : air.Sound Inv Good) (id : Id)
    {reaction : State × List (Post Id Msg)} (keeps : Keeps Inv Good reaction) :
    (air.react id reaction).Sound Inv Good := by
  refine ⟨forall_update sound.1 id keeps.1, fun post member => ?_⟩
  rcases List.mem_append.mp member with old | new
  · exact sound.2 post old
  · exact keeps.2 post new

/-- An invariant of the party holds throughout a run of the lossy network. -/
theorem Party.Preserves.lossy (preserves : party.Preserves Inv Good)
    {air air' : Air Id State Msg} (sound : air.Sound Inv Good)
    (run : Relation.ReflTransGen (LossyStep party members) air air') :
    air'.Sound Inv Good := by
  induction run with
  | refl => exact sound
  | tail _ step ih =>
    cases step with
    | receive id member post posted reaches =>
      exact ih.react id (preserves.receive _ _ (ih.1 id) (ih.2 post posted))
    | act id member input => exact ih.react id (preserves.act _ input (ih.1 id))

/-- A party whose states record evidence, which no reaction destroys. Its invariant and the property
of its messages depend on a set, and a reaction keeps them when the evidence that it leaves lies in
the set. -/
structure Party.Accounts {V : Type*} (party : Party Id State Input Msg) (evidence : State → Set V)
    (Inv : Set V → State → Prop) (Good : Set V → Msg → Prop) : Prop where
  /-- A message destroys no evidence. -/
  received : ∀ state message, evidence state ⊆ evidence (party.receive state message).1
  /-- An input destroys no evidence. -/
  acted : ∀ state input, evidence state ⊆ evidence (party.act state input).1
  /-- The reaction to a message. -/
  receive : ∀ known state message, Inv known state → Good known message →
    evidence (party.receive state message).1 ⊆ known →
    Keeps (Inv known) (Good known) (party.receive state message)
  /-- The reaction to an input. -/
  act : ∀ known state input, Inv known state → evidence (party.act state input).1 ⊆ known →
    Keeps (Inv known) (Good known) (party.act state input)

/-- Throughout a run of the lossy network everything is accounted for by any set that the evidence
at its end lies in. -/
theorem Party.Accounts.lossy {V : Type*} {evidence : State → Set V}
    {Inv : Set V → State → Prop} {Good : Set V → Msg → Prop} (accounts : party.Accounts evidence Inv Good)
    {known : Set V} {air air' : Air Id State Msg} (sound : air.Sound (Inv known) (Good known))
    (run : Relation.ReflTransGen (LossyStep party members) air air')
    (within : ∀ id, evidence (air'.states id) ⊆ known) :
    air'.Sound (Inv known) (Good known) := by
  induction run with
  | refl => exact sound
  | @tail air' _ _ step ih =>
    -- the evidence of the state before lies in the set because that of the state after does
    have earlier {id : Id} {reaction : State × List (Post Id Msg)}
        (grows : evidence (air'.states id) ⊆ evidence reaction.1)
        (within' : ∀ other, evidence ((air'.react id reaction).states other) ⊆ known) :
        (∀ other, evidence (air'.states other) ⊆ known) ∧ evidence reaction.1 ⊆ known := by
      have here : evidence reaction.1 ⊆ known := by
        have state : (air'.react id reaction).states id = reaction.1 := Function.update_self ..
        have bound := within' id
        rwa [state] at bound
      refine ⟨fun other => ?_, here⟩
      by_cases same : other = id
      · rw [same]
        exact grows.trans here
      · have state : (air'.react id reaction).states other = air'.states other :=
          Function.update_of_ne same ..
        have bound := within' other
        rwa [state] at bound
    cases step with
    | receive id member post posted reaches =>
      obtain ⟨before, here⟩ := earlier (accounts.received _ post.message) within
      have sound' := ih before
      exact sound'.react id
        (accounts.receive known _ _ (sound'.1 id) (sound'.2 post posted) here)
    | act id member input =>
      obtain ⟨before, here⟩ := earlier (accounts.acted _ input) within
      have sound' := ih before
      exact sound'.react id (accounts.act known _ input (sound'.1 id) here)

end Lossy

section Ordered

/-- A copy of a post on its way to one party. The copies of one post share a group. -/
structure Packet (Id Msg : Type*) where
  /-- Who sent it. -/
  source : Id
  /-- Whom it is for. -/
  target : Id
  /-- The post that it is a copy of. -/
  group : Nat
  /-- What it carries. -/
  message : Msg

/-- An earlier packet that has to be delivered first: one on the same way, or the sender's own
copy of the same broadcast. -/
def Packet.Precedes (earlier later : Packet Id Msg) : Prop :=
  earlier.source = later.source ∧
    (earlier.target = later.target ∨
      earlier.group = later.group ∧ earlier.target = earlier.source)

variable [DecidableEq Id]

/-- The copies of a post: one for a party that exists, or one for each party, the sender's
own first. -/
def Post.packets (members : List Id) (source : Id) (group : Nat) :
    Post Id Msg → List (Packet Id Msg)
  | .unicast target message =>
    if target ∈ members then [⟨source, target, group, message⟩] else []
  | .broadcast message =>
    (source :: members.erase source).map fun target => ⟨source, target, group, message⟩

/-- The copies of some posts of one party, the posts numbered from a group on. -/
def packetsOf (members : List Id) (source : Id) :
    Nat → List (Post Id Msg) → List (Packet Id Msg)
  | _, [] => []
  | group, post :: posts =>
    post.packets members source group ++ packetsOf members source (group + 1) posts

/-- The states of the parties, the packets not delivered yet in the order in which they were
sent, and the number of posts made. -/
structure Wire (Id State Msg : Type*) where
  /-- The states. -/
  states : Id → State
  /-- The packets in flight. -/
  packets : List (Packet Id Msg)
  /-- The number of posts made. -/
  posted : Nat

/-- One party's reaction, with the packets that stay in flight. -/
def Wire.react (wire : Wire Id State Msg) (members : List Id) (id : Id)
    (reaction : State × List (Post Id Msg)) (kept : List (Packet Id Msg)) :
    Wire Id State Msg where
  states := Function.update wire.states id reaction.1
  packets := kept ++ packetsOf members id wire.posted reaction.2
  posted := wire.posted + reaction.2.length

/-- A step of the ordered network. -/
inductive OrderedStep (party : Party Id State Input Msg) (members : List Id) :
    Wire Id State Msg → Wire Id State Msg → Prop where
  | receive (wire : Wire Id State Msg) (earlier : List (Packet Id Msg))
      (packet : Packet Id Msg) (later : List (Packet Id Msg))
      (split : wire.packets = earlier ++ packet :: later)
      (ready : ∀ other ∈ earlier, ¬ other.Precedes packet) :
      OrderedStep party members wire
        (wire.react members packet.target
          (party.receive (wire.states packet.target) packet.message) (earlier ++ later))
  | act (wire : Wire Id State Msg) (id : Id) (member : id ∈ members) (input : Input) :
      OrderedStep party members wire
        (wire.react members id (party.act (wire.states id) input) wire.packets)

variable {party : Party Id State Input Msg} {members : List Id} {Inv : State → Prop}
  {Good : Msg → Prop}

/-- A packet carries the message of a post. -/
theorem exists_post_of_mem_packetsOf {source : Id} {group : Nat} {posts : List (Post Id Msg)}
    {packet : Packet Id Msg} (member : packet ∈ packetsOf members source group posts) :
    ∃ post ∈ posts, packet.message = post.message := by
  induction posts generalizing group with
  | nil => simp [packetsOf] at member
  | cons post posts ih =>
    rcases List.mem_append.mp member with here | later
    · refine ⟨post, List.mem_cons_self, ?_⟩
      cases post with
      | unicast target message =>
        simp only [Post.packets] at here
        split at here
        · rw [List.mem_singleton.mp here]
          rfl
        · exact absurd here List.not_mem_nil
      | broadcast message =>
        obtain ⟨target, _, rfl⟩ := List.mem_map.mp here
        rfl
    · obtain ⟨found, found_mem, same⟩ := ih later
      exact ⟨found, List.mem_cons_of_mem _ found_mem, same⟩

/-- All states keep the invariant and all packets have the property. -/
def Wire.Sound (Inv : State → Prop) (Good : Msg → Prop) (wire : Wire Id State Msg) : Prop :=
  (∀ id, Inv (wire.states id)) ∧ ∀ packet ∈ wire.packets, Good packet.message

/-- One reaction keeps the wire sound. -/
theorem Wire.Sound.react {wire : Wire Id State Msg} (sound : wire.Sound Inv Good) (id : Id)
    {reaction : State × List (Post Id Msg)} {kept : List (Packet Id Msg)}
    (subset : ∀ packet ∈ kept, packet ∈ wire.packets) (keeps : Keeps Inv Good reaction) :
    (wire.react members id reaction kept).Sound Inv Good := by
  refine ⟨forall_update sound.1 id keeps.1, fun packet member => ?_⟩
  rcases List.mem_append.mp member with old | new
  · exact sound.2 packet (subset packet old)
  · obtain ⟨post, posted, same⟩ := exists_post_of_mem_packetsOf new
    rw [same]
    exact keeps.2 post posted

/-- An invariant of the party holds throughout a run of the ordered network. -/
theorem Party.Preserves.ordered (preserves : party.Preserves Inv Good)
    {wire wire' : Wire Id State Msg} (sound : wire.Sound Inv Good)
    (run : Relation.ReflTransGen (OrderedStep party members) wire wire') :
    wire'.Sound Inv Good := by
  induction run with
  | refl => exact sound
  | tail _ step ih =>
    cases step with
    | receive earlier packet later split ready =>
      have here : packet ∈ earlier ++ packet :: later :=
        List.mem_append_right _ List.mem_cons_self
      have message := ih.2 packet (split ▸ here)
      refine ih.react packet.target (fun other member => ?_)
        (preserves.receive _ _ (ih.1 packet.target) message)
      rw [split]
      rcases List.mem_append.mp member with before | after
      · exact List.mem_append_left _ before
      · exact List.mem_append_right _ (List.mem_cons_of_mem _ after)
    | act id member input =>
      exact ih.react id (fun _ member => member) (preserves.act _ input (ih.1 id))

/-- The weight of some packets. -/
def load (weight : Msg → Nat) (packets : List (Packet Id Msg)) : Nat :=
  (packets.map fun packet => weight packet.message).sum

/-- The weight of one post is that of its message, or nothing. -/
theorem load_unicast_le (weight : Msg → Nat) (members : List Id) (source target : Id)
    (group : Nat) (message : Msg) :
    load weight (packetsOf members source group [.unicast target message]) ≤ weight message := by
  simp only [packetsOf, Post.packets, List.append_nil]
  split
  · simp [load]
  · simp [load]

/-- If a message outweighs every reaction to it, each sound wire can be brought to silence:
deliver the oldest packet, which nothing precedes, again and again. -/
theorem Party.Preserves.exists_silent (preserves : party.Preserves Inv Good)
    (weight : Msg → Nat)
    (drains : ∀ source group state message, Inv state → Good message →
      load weight (packetsOf members source group (party.receive state message).2) <
        weight message)
    (wire : Wire Id State Msg) (sound : wire.Sound Inv Good) :
    ∃ final, Relation.ReflTransGen (OrderedStep party members) wire final ∧
      final.packets = [] := by
  induction bound : load weight wire.packets using Nat.strongRecOn generalizing wire with
  | _ total ih =>
    cases inFlight : wire.packets with
    | nil => exact ⟨wire, .refl, inFlight⟩
    | cons packet later =>
      let reaction := party.receive (wire.states packet.target) packet.message
      have step : OrderedStep party members wire
          (wire.react members packet.target reaction ([] ++ later)) :=
        .receive wire [] packet later inFlight (fun _ member => absurd member List.not_mem_nil)
      have kept := preserves.ordered sound (.single step)
      have message : Good packet.message := sound.2 packet (inFlight ▸ List.mem_cons_self)
      have lighter : load weight
          (wire.react members packet.target reaction ([] ++ later)).packets < total := by
        have reacted : load weight (packetsOf members packet.target wire.posted reaction.2) <
            weight packet.message := drains _ _ _ _ (sound.1 packet.target) message
        rw [← bound, inFlight]
        simp only [load, Wire.react, List.nil_append, List.map_append, List.sum_append,
          List.map_cons, List.sum_cons] at reacted ⊢
        omega
      obtain ⟨final, run, silent⟩ := ih _ lighter _ kept rfl
      exact ⟨final, .head step run, silent⟩

end Ordered

end Delivery
