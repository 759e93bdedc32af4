import Paxosme.Core.Network
import Paxosme.Lib.Numerals
import Mathlib.Data.List.Basic

/-!
# The keys of the clients

A client is kept under a polynomial in 31 over the characters of the address of its peer. The
characters lie in a window that is narrower than 31, so that exact sums tell addresses apart. They
are below 2⁶⁴ up to twelve characters. The code sums in doubles, which are exact up to ten
characters; beyond them addresses that differ only at the beginning may share a key.
-/

namespace Paxosme

open Numerals

/-- Four groups of one to three decimal digits with dots between them. -/
def Dotted (ip : String) : Prop :=
  ∃ groups : List String, groups.length = 4 ∧
    (∀ group ∈ groups, 1 ≤ group.length ∧ group.length ≤ 3 ∧ group.toList.all Char.isDigit) ∧
    ip = ".".intercalate groups

namespace Network

/-- After `Start` every peer has its own client, which is given the messages to it. -/
structure Reaches (keyOf : Peer → UInt64) (peers : List Peer) : Prop where
  /-- There is one client for every peer. -/
  clients : (start keyOf {} peers).clients = peers.map fun peer => (keyOf peer, peer)
  /-- The key of a peer leads to its client. -/
  own : ∀ peer ∈ peers, (start keyOf {} peers).clients.lookup (keyOf peer) = some peer
  /-- `Send` hands a message to it, and to no other client. -/
  sent : ∀ peer ∈ peers, ∀ message, (start keyOf {} peers).send keyOf peer message =
    (start keyOf {} peers, peer, podMessage message)
  /-- `Broadcast` hands a message to every one of them, once. -/
  spread : ∀ message, (start keyOf {} peers).broadcast message =
    peers.map fun peer => (peer, podMessage message)

variable {keyOf : Peer → UInt64} {peers : List Peer}

/-- Peers with keys of their own are added behind the clients that are there. -/
theorem foldl_emplace {network : Network} (distinct : peers.Nodup)
    (apart : ∀ peer ∈ peers, ∀ other ∈ peers, keyOf peer = keyOf other → peer = other)
    (unknown : ∀ peer ∈ peers, network.clients.lookup (keyOf peer) = none) :
    (peers.foldl (fun network peer => network.emplace (keyOf peer) peer) network).clients =
      network.clients ++ peers.map fun peer => (keyOf peer, peer) := by
  induction peers generalizing network with
  | nil => simp
  | cons peer rest ih =>
    have ⟨fresh, distinct⟩ := List.nodup_cons.mp distinct
    have added : network.emplace (keyOf peer) peer =
        { network with clients := network.clients ++ [(keyOf peer, peer)] } := by
      rw [emplace, unknown peer List.mem_cons_self]
    have still : ∀ other ∈ rest,
        (network.emplace (keyOf peer) peer).clients.lookup (keyOf other) = none := by
      intro other member
      have differs : keyOf other ≠ keyOf peer := by
        intro same
        apply fresh
        rw [← apart other (List.mem_cons_of_mem _ member) peer List.mem_cons_self same]
        exact member
      rw [added, List.lookup_append, unknown other (List.mem_cons_of_mem _ member)]
      simp [differs]
    rw [List.foldl_cons, ih distinct
      (fun one first other second => apart one (List.mem_cons_of_mem _ first) other
        (List.mem_cons_of_mem _ second)) still, added]
    simp

/-- A key of its own leads to its peer. -/
theorem lookup_own
    (apart : ∀ peer ∈ peers, ∀ other ∈ peers, keyOf peer = keyOf other → peer = other)
    {peer : Peer} (member : peer ∈ peers) :
    (peers.map fun peer => (keyOf peer, peer)).lookup (keyOf peer) = some peer := by
  induction peers with
  | nil => exact absurd member List.not_mem_nil
  | cons other rest ih =>
    rw [List.map_cons, List.lookup_cons]
    by_cases same : keyOf peer = keyOf other
    · rw [apart peer member other List.mem_cons_self same]
      simp
    · have elsewhere : peer ∈ rest := by
        rcases List.mem_cons.mp member with equal | elsewhere
        · exact absurd (congrArg keyOf equal) same
        · exact elsewhere
      have differs : (keyOf peer == keyOf other) = false := beq_eq_false_iff_ne.mpr same
      rw [differs]
      exact ih (fun one first other second => apart one (List.mem_cons_of_mem _ first) other
        (List.mem_cons_of_mem _ second)) elsewhere

/-- Peers with keys of their own are reached. -/
theorem reaches (distinct : peers.Nodup)
    (apart : ∀ peer ∈ peers, ∀ other ∈ peers, keyOf peer = keyOf other → peer = other) :
    Reaches keyOf peers := by
  have clients : (start keyOf {} peers).clients = peers.map fun peer => (keyOf peer, peer) :=
    foldl_emplace distinct apart fun _ _ => rfl
  have own : ∀ peer ∈ peers,
      (start keyOf {} peers).clients.lookup (keyOf peer) = some peer := by
    intro peer member
    rw [clients]
    exact lookup_own apart member
  refine ⟨clients, own, ?_, ?_⟩
  · intro peer member message
    rw [send, own peer member]
  · intro message
    rw [broadcast, clients, List.map_map]
    rfl

end Network

namespace PeerHash

/-- The sum of the loop over the first characters, in exact integer arithmetic. -/
def partialSum (peer : Peer) (count : Nat) : Nat :=
  ((peer.toString.toList.take count).zipIdx.map fun (char, i) => char.toNat * 31 ^ i).sum

/-- Client keys identify peers, with the sums of the loop rounded as given. -/
structure KeysIdentify (round : Nat → Nat) (peers : List Peer) : Prop where
  /-- Exact partial sums are below 2⁶⁴. -/
  below : ∀ peer ∈ peers, ∀ count, partialSum peer count < 2 ^ 64
  /-- Every conversion to a `size_t` is defined. -/
  defined : ∀ peer ∈ peers, ∃ key, hash round peer = some key
  /-- Distinct peers have distinct keys. -/
  apart : ∀ peer ∈ peers, ∀ other ∈ peers, hash round peer = hash round other → peer = other
  /-- Every peer is reached. -/
  reached : ∀ keyOf, (∀ peer ∈ peers, hash round peer = some (keyOf peer)) →
    Network.Reaches keyOf peers

/-- Two addresses of ten characters and some more are the same but for the first of them, as many
as there are more than ten. -/
def Blurred (peer other : Peer) : Prop :=
  peer.toString.length = other.toString.length ∧
    peer.toString.toList.drop (peer.toString.length - 10) =
      other.toString.toList.drop (peer.toString.length - 10)

instance (peer other : Peer) : Decidable (Blurred peer other) :=
  inferInstanceAs (Decidable (_ ∧ _))

variable {round : Nat → Nat} {text first second : List Char}

/-- The exact sum over a text. -/
def weigh (text : List Char) : Nat := Nat.ofDigits 31 (text.map Char.toNat)

/-- The characters are digits, dots or colons. -/
def Plain (text : List Char) : Prop := Within 46 12 (text.map Char.toNat)

@[simp] theorem weigh_cons (char : Char) (rest : List Char) :
    weigh (char :: rest) = char.toNat + 31 * weigh rest := by
  rw [weigh, List.map_cons, Nat.ofDigits_cons, weigh]

theorem Plain.drop (plain : Plain text) (count : Nat) : Plain (text.drop count) := by
  rw [Plain, List.map_drop]
  exact Within.drop plain count

theorem Plain.take (plain : Plain text) (count : Nat) : Plain (text.take count) := by
  intro code member
  rw [List.map_take] at member
  exact plain code (List.mem_of_mem_take member)

theorem Plain.tail {char : Char} {rest : List Char} (plain : Plain (char :: rest)) : Plain rest :=
  plain.drop 1

theorem Plain.head {char : Char} {rest : List Char} (plain : Plain (char :: rest)) :
    46 ≤ char.toNat ∧ char.toNat ≤ 58 :=
  plain char.toNat List.mem_cons_self

/-! ### Exact sums -/

/-- The partial sum is the weight of the first characters. -/
theorem sum_zipIdx (text : List Char) (i : Nat) :
    ((text.zipIdx i).map fun (char, i) => char.toNat * 31 ^ i).sum = 31 ^ i * weigh text := by
  induction text generalizing i with
  | nil => simp [weigh]
  | cons char rest ih =>
    rw [List.zipIdx_cons, List.map_cons, List.sum_cons, ih, weigh_cons]
    ring

theorem partialSum_eq (peer : Peer) (count : Nat) :
    partialSum peer count = weigh (peer.toString.toList.take count) := by
  rw [partialSum, sum_zipIdx, Nat.pow_zero, Nat.one_mul]

/-- The weight of so many characters at most. -/
theorem weigh_le (plain : Plain text) {limit : Nat} (short : text.length ≤ limit) :
    30 * weigh text + 58 ≤ 58 * 31 ^ limit := by
  have bound : 30 * weigh text + 58 ≤ 58 * 31 ^ (text.map Char.toNat).length := ofDigits_le plain
  rw [List.length_map] at bound
  have more : 58 * 31 ^ text.length ≤ 58 * 31 ^ limit :=
    Nat.mul_le_mul_left _ (Nat.pow_le_pow_right (by decide) short)
  exact bound.trans more

/-- Exact partial sums are below 2⁶⁴ for texts of twelve characters at most. -/
theorem partialSum_lt_iff {peer : Peer} (plain : Plain peer.toString.toList) :
    (∀ count, partialSum peer count < 2 ^ 64) ↔ peer.toString.length ≤ 12 := by
  rw [← String.length_toList]
  constructor
  · intro below
    by_contra long
    have whole := below peer.toString.toList.length
    rw [partialSum_eq, List.take_length] at whole
    have longer : 12 < (peer.toString.toList.map Char.toNat).length := by
      rw [List.length_map]
      omega
    have least : 46 * 31 ^ 12 ≤ weigh peer.toString.toList := le_ofDigits plain longer
    omega
  · intro short count
    rw [partialSum_eq]
    have shorter : (peer.toString.toList.take count).length ≤ 12 := by
      rw [List.length_take]
      omega
    have bound := weigh_le (plain.take count) shorter
    omega

/-! ### The loop -/

theorem loop_cons (i hashCode : Nat) (char : Char) (rest : List Char) :
    loop round i hashCode (char :: rest) =
      if add round i hashCode char < 2 ^ 64 then
        loop round (i + 1) (add round i hashCode char) rest
      else none := rfl

/-- The loop over two texts, one after the other. -/
theorem loop_append (i hashCode : Nat) (first second : List Char) :
    loop round i hashCode (first ++ second) =
      (loop round i hashCode first).bind fun hashCode =>
        loop round (i + first.length) hashCode second := by
  induction first generalizing i hashCode with
  | nil => rfl
  | cons char rest ih =>
    rw [List.cons_append, loop_cons, loop_cons]
    split
    · rw [ih, List.length_cons, Nat.add_assoc, Nat.add_comm 1]
    · rfl

/-- What the loop returns is a `size_t`. -/
theorem loop_lt {i hashCode key : Nat} (small : hashCode < 2 ^ 64)
    (returned : loop round i hashCode text = some key) : key < 2 ^ 64 := by
  induction text generalizing i hashCode with
  | nil =>
    cases returned
    exact small
  | cons char rest ih =>
    rw [loop_cons] at returned
    split at returned
    next next => exact ih next returned
    next => cases returned

/-- As long as nothing is rounded the loop computes the exact sum. -/
theorem loop_exact {limit : Nat} (exact : ∀ n < limit, round n = n) (fits : limit ≤ 2 ^ 64)
    (plain : Plain text) {i hashCode : Nat} (small : hashCode + 31 ^ i * weigh text < limit) :
    loop round i hashCode text = some (hashCode + 31 ^ i * weigh text) := by
  induction text generalizing i hashCode with
  | nil => simp [loop, weigh]
  | cons char rest ih =>
    have ⟨nonzero, _⟩ := plain.head
    have whole : 31 ^ i * weigh (char :: rest) =
        char.toNat * 31 ^ i + 31 ^ (i + 1) * weigh rest := by
      rw [weigh_cons]
      ring
    have power : 31 ^ i ≤ char.toNat * 31 ^ i := Nat.le_mul_of_pos_left _ (by omega)
    rw [whole] at small
    have next : add round i hashCode char = hashCode + char.toNat * 31 ^ i := by
      rw [add, exact (31 ^ i) (by omega), exact hashCode (by omega),
        exact (char.toNat * 31 ^ i) (by omega), exact _ (by omega)]
    rw [loop_cons, next, if_pos (by omega), ih plain.tail (by omega), whole, Nat.add_assoc]

/-! ### Sums in doubles -/

/-- The term of a character. -/
def term (round : Nat → Nat) (i : Nat) (char : Char) : Nat :=
  round (char.toNat * round (31 ^ i))

/-- A term is off by what its power and its product are rounded by. -/
theorem term_near (rounds : Doubles.Rounds round) {i power product : Nat} {char : Char}
    (powers : 31 ^ i ≤ 2 ^ 53 * power)
    (products : char.toNat * (31 ^ i + power) ≤ 2 ^ 53 * product) :
    Nat.dist (term round i char) (char.toNat * 31 ^ i) ≤ char.toNat * power + product := by
  have near := rounds.near powers
  have above : round (31 ^ i) ≤ 31 ^ i + power := by
    have moved := Nat.dist_tri_left' (round (31 ^ i)) (31 ^ i)
    omega
  have factor : Nat.dist (char.toNat * round (31 ^ i)) (char.toNat * 31 ^ i) ≤
      char.toNat * power := by
    rw [Nat.dist_mul_left]
    exact Nat.mul_le_mul_left _ near
  have rounded := rounds.near ((Nat.mul_le_mul_left char.toNat above).trans products)
  have triangle := Nat.dist.triangle_inequality (term round i char)
    (char.toNat * round (31 ^ i)) (char.toNat * 31 ^ i)
  rw [term] at triangle ⊢
  omega

/-- A sum is off by what its operand and the sum are rounded by. -/
theorem add_near (rounds : Doubles.Rounds round) {i hashCode operand sum : Nat} {char : Char}
    (operands : hashCode ≤ 2 ^ 53 * operand)
    (sums : hashCode + operand + term round i char ≤ 2 ^ 53 * sum) :
    Nat.dist (add round i hashCode char) (hashCode + term round i char) ≤ operand + sum := by
  have near := rounds.near operands
  have above : round hashCode ≤ hashCode + operand := by
    have moved := Nat.dist_tri_left' (round hashCode) hashCode
    omega
  have shifted := Nat.dist_add_add_right (round hashCode) (term round i char) hashCode
  have rounded : Nat.dist (round (round hashCode + term round i char))
      (round hashCode + term round i char) ≤ sum := rounds.near (by omega)
  have triangle := Nat.dist.triangle_inequality (add round i hashCode char)
    (round hashCode + term round i char) (hashCode + term round i char)
  rw [add] at triangle ⊢
  rw [term] at *
  omega

/-- The eleventh term is off by some units. -/
theorem eleventh_term (rounds : Doubles.Rounds round) {char : Char} (code : char.toNat ≤ 58) :
    Nat.dist (term round 10 char) (char.toNat * 31 ^ 10) ≤ 64 := by
  have near : Nat.dist (term round 10 char) (char.toNat * 31 ^ 10) ≤ char.toNat * 1 + 6 :=
    term_near rounds (by decide) (by omega)
  omega

/-- The eleventh sum is off by a few units. -/
theorem eleventh_sum (rounds : Doubles.Rounds round) {hashCode : Nat} {char : Char}
    (code : char.toNat ≤ 58) (ten : 30 * hashCode + 58 ≤ 58 * 31 ^ 10) :
    Nat.dist (add round 10 hashCode char) (hashCode + term round 10 char) ≤ 7 ∧
      add round 10 hashCode char ≤ 2 ^ 53 * 6 := by
  have terms := eleventh_term rounds code
  have size := Nat.dist_tri_left' (term round 10 char) (char.toNat * 31 ^ 10)
  have near : Nat.dist (add round 10 hashCode char) (hashCode + term round 10 char) ≤ 1 + 6 :=
    add_near rounds (by omega) (by omega)
  have bound := Nat.dist_tri_left' (add round 10 hashCode char) (hashCode + term round 10 char)
  exact ⟨near, by omega⟩

/-- The twelfth term is off by some hundred. -/
theorem twelfth_term (rounds : Doubles.Rounds round) {char : Char} (code : char.toNat ≤ 58) :
    Nat.dist (term round 11 char) (char.toNat * 31 ^ 11) ≤ 338 := by
  have near : Nat.dist (term round 11 char) (char.toNat * 31 ^ 11) ≤ char.toNat * 3 + 164 :=
    term_near rounds (by decide) (by omega)
  omega

/-- The twelfth sum is off by some hundred, and a `size_t`. -/
theorem twelfth_sum (rounds : Doubles.Rounds round) {hashCode : Nat} {char : Char}
    (code : char.toNat ≤ 58) (eleven : hashCode ≤ 2 ^ 53 * 6) :
    Nat.dist (add round 11 hashCode char) (hashCode + term round 11 char) ≤ 177 ∧
      add round 11 hashCode char < 2 ^ 64 := by
  have terms := twelfth_term rounds code
  have size := Nat.dist_tri_left' (term round 11 char) (char.toNat * 31 ^ 11)
  have near : Nat.dist (add round 11 hashCode char) (hashCode + term round 11 char) ≤ 6 + 171 :=
    add_near rounds eleven (by omega)
  have bound := Nat.dist_tri_left' (add round 11 hashCode char) (hashCode + term round 11 char)
  exact ⟨near, by omega⟩

/-- How far the key is off the sum before so many characters and what these add. -/
def slack : Nat → Nat
  | 0 => 0
  | 1 => 7
  | _ => 184

/-- The characters after the tenth add nearly the same to every sum before them. -/
theorem loop_rest (rounds : Doubles.Rounds round) {rest : List Char} (plain : Plain rest)
    (short : rest.length ≤ 2) :
    ∃ shift, Nat.dist shift (31 ^ 10 * weigh rest) ≤ 402 ∧
      ∀ hashCode, 30 * hashCode + 58 ≤ 58 * 31 ^ 10 →
        ∃ key, loop round 10 hashCode rest = some key ∧
          Nat.dist key (hashCode + shift) ≤ slack rest.length := by
  cases rest with
  | nil =>
    refine ⟨0, by simp [weigh], fun hashCode _ => ⟨hashCode, rfl, ?_⟩⟩
    rw [Nat.add_zero, Nat.dist_self]
    exact Nat.zero_le _
  | cons char rest =>
    have ⟨_, code⟩ := plain.head
    cases rest with
    | nil =>
      refine ⟨term round 10 char, ?_, fun hashCode ten => ?_⟩
      · have terms := eleventh_term rounds code
        have weight : 31 ^ 10 * weigh [char] = char.toNat * 31 ^ 10 := by
          rw [weigh_cons]
          exact Nat.mul_comm _ _
        rw [weight]
        omega
      · have ⟨sums, eleven⟩ := eleventh_sum rounds code ten
        refine ⟨add round 10 hashCode char, ?_, sums⟩
        rw [loop_cons, if_pos (by omega)]
        rfl
    | cons last rest =>
      have none : rest = [] := by
        apply List.eq_nil_of_length_eq_zero
        simp only [List.length_cons] at short
        omega
      rw [none]
      have ⟨_, lastCode⟩ := plain.tail.head
      refine ⟨term round 10 char + term round 11 last, ?_, fun hashCode ten => ?_⟩
      · have terms := eleventh_term rounds code
        have lastTerms := twelfth_term rounds lastCode
        have weight : 31 ^ 10 * weigh [char, last] =
            char.toNat * 31 ^ 10 + last.toNat * 31 ^ 11 := by
          rw [weigh_cons, weigh_cons]
          simp only [weigh, List.map_nil, Nat.ofDigits_nil]
          omega
        rw [weight]
        simp only [Nat.dist] at terms lastTerms ⊢
        omega
      · have ⟨sums, eleven⟩ := eleventh_sum rounds code ten
        have ⟨lastSums, twelve⟩ := twelfth_sum rounds lastCode eleven
        refine ⟨add round 11 (add round 10 hashCode char) last, ?_, ?_⟩
        · rw [loop_cons, if_pos (by omega)]
          change loop round 11 _ [last] = _
          rw [loop_cons, if_pos twelve]
          rfl
        · change _ ≤ 184
          simp only [Nat.dist] at sums lastSums ⊢
          omega

/-- The loop over ten characters computes the exact sum. -/
theorem loop_ten (rounds : Doubles.Rounds round) (plain : Plain text) :
    loop round 0 0 text = loop round 10 (weigh (text.take 10)) (text.drop 10) := by
  have shorter : (text.take 10).length ≤ 10 := by
    rw [List.length_take]
    omega
  have size := weigh_le (plain.take 10) shorter
  have exact : loop round 0 0 (text.take 10) = some (0 + 31 ^ 0 * weigh (text.take 10)) :=
    loop_exact (fun n small => rounds.exact small) (by decide) (plain.take 10) (by omega)
  rw [Nat.pow_zero, Nat.one_mul, Nat.zero_add] at exact
  conv_lhs => rw [← List.take_append_drop 10 text]
  rw [loop_append, exact]
  change loop round (0 + (text.take 10).length) _ _ = _
  by_cases long : 10 ≤ text.length
  · rw [List.length_take, Nat.min_eq_left long]
  · rw [List.drop_of_length_le (by omega)]
    rfl

/-- The weight of a text is that of ten characters and of those after them. -/
theorem weigh_ten (text : List Char) :
    weigh text = weigh (text.take 10) + 31 ^ 10 * weigh (text.drop 10) := by
  conv_lhs => rw [← List.take_append_drop 10 text]
  rw [weigh, List.map_append, Nat.ofDigits_append, List.length_map]
  by_cases long : 10 ≤ text.length
  · rw [List.length_take, Nat.min_eq_left long]
    rfl
  · rw [List.drop_of_length_le (by omega)]
    rfl

/-- Texts of close weights are the same from the character on where the distance is gone. -/
theorem drop_eq_of_near (left : Plain first) (right : Plain second) {gap : Nat}
    (near : Nat.dist (weigh first) (weigh second) ≤ gap) (count : Nat)
    (gone : (fun gap => (gap + 12) / 31)^[count] gap = 0) :
    first.drop count = second.drop count := by
  have codes := drop_eq (by decide) (by decide) left right near gone
  rw [← List.map_drop, ← List.map_drop] at codes
  exact (List.map_inj_right fun _ _ => Char.toNat_inj.mp).mp codes

/-- **Up to twelve characters the loop returns a sum**, close to the exact one. -/
theorem loop_near (rounds : Doubles.Rounds round) (plain : Plain text)
    (short : text.length ≤ 12) :
    ∃ key, loop round 0 0 text = some key ∧ Nat.dist key (weigh text) ≤ 586 := by
  have ⟨shift, close, runs⟩ := loop_rest rounds (plain.drop 10) (by
    rw [List.length_drop]
    omega)
  have ⟨key, returned, near⟩ := runs _ (weigh_le (plain.take 10) (by
    rw [List.length_take]
    omega))
  have small : slack (text.drop 10).length ≤ 184 := by
    unfold slack
    split
    all_goals omega
  refine ⟨key, by rw [loop_ten rounds plain, returned], ?_⟩
  rw [weigh_ten text]
  simp only [Nat.dist] at close near ⊢
  omega

/-- Texts with one key are the same but for as many characters at their beginning as they have
beyond the tenth. -/
theorem loop_inj (rounds : Doubles.Rounds round) (left : Plain first) (right : Plain second)
    (short : first.length ≤ 12) (short' : second.length ≤ 12)
    (same : loop round 0 0 first = loop round 0 0 second) :
    first.length = second.length ∧
      first.drop (first.length - 10) = second.drop (first.length - 10) := by
  have ⟨key, returned, near⟩ := loop_near rounds left short
  have ⟨key', returned', near'⟩ := loop_near rounds right short'
  have equal : key = key' := by
    rw [returned, returned'] at same
    exact Option.some.inj same
  -- the weights differ by so little that all but three characters agree
  have close : Nat.dist (weigh first) (weigh second) ≤ 1172 := by
    rw [← equal] at near'
    simp only [Nat.dist] at near near' ⊢
    omega
  have most : first.drop 3 = second.drop 3 :=
    drop_eq_of_near left right close 3 (by decide)
  have rests : first.drop 10 = second.drop 10 := by
    have later := congrArg (List.drop 7) most
    rw [List.drop_drop, List.drop_drop] at later
    exact later
  have lengths := congrArg List.length most
  rw [List.length_drop, List.length_drop] at lengths
  -- what the characters after the tenth add cancels out
  have tens : Nat.dist (weigh first) (weigh second) ≤ 2 * slack (first.length - 10) := by
    have ⟨shift, _, runs⟩ := loop_rest rounds (left.drop 10) (by
      rw [List.length_drop]
      omega)
    have ⟨sum, sums, before⟩ := runs _ (weigh_le (left.take 10) (by
      rw [List.length_take]
      omega))
    have ⟨sum', sums', before'⟩ := runs _ (weigh_le (right.take 10) (by
      rw [List.length_take]
      omega))
    rw [← loop_ten rounds left] at sums
    rw [rests, ← loop_ten rounds right, ← same, sums] at sums'
    cases sums'
    rw [List.length_drop] at before before'
    rw [weigh_ten first, weigh_ten second, rests, Nat.dist_add_add_right]
    simp only [Nat.dist] at before before' ⊢
    omega
  have begin : first.drop (first.length - 10) = second.drop (first.length - 10) := by
    rcases (by omega : first.length - 10 = 0 ∨ first.length - 10 = 1 ∨ first.length - 10 = 2)
      with none | one | two
    · rw [none] at tens ⊢
      exact drop_eq_of_near left right tens 0 (by decide)
    · rw [one] at tens ⊢
      exact drop_eq_of_near left right tens 1 (by decide)
    · rw [two] at tens ⊢
      exact drop_eq_of_near left right tens 2 (by decide)
  refine ⟨?_, begin⟩
  by_cases long : 3 < first.length
  · omega
  · have ends := congrArg List.length begin
    rw [List.length_drop, List.length_drop] at ends
    omega

/-! ### Addresses -/

/-- A decimal digit has a code from 48 to 57. -/
theorem toNat_of_isDigit {char : Char} (digit : char.isDigit) :
    48 ≤ char.toNat ∧ char.toNat ≤ 57 := by
  simp only [Char.isDigit, Bool.and_eq_true, decide_eq_true_eq] at digit
  exact digit

/-- What is joined with dots from digits has digits and dots. -/
theorem toNat_of_mem_intercalate (groups : List (List Char))
    (digits : ∀ group ∈ groups, ∀ char ∈ group, char.isDigit) :
    ∀ char ∈ ['.'].intercalate groups, 46 ≤ char.toNat ∧ char.toNat ≤ 57 := by
  intro char member
  induction groups with
  | nil => exact absurd member List.not_mem_nil
  | cons group rest ih =>
    have here : char ∈ group → 46 ≤ char.toNat ∧ char.toNat ≤ 57 := by
      intro inside
      have ⟨above, below⟩ := toNat_of_isDigit (digits group List.mem_cons_self char inside)
      exact ⟨by omega, below⟩
    cases rest with
    | nil =>
      rw [List.intercalate_singleton] at member
      exact here member
    | cons next rest =>
      rw [List.intercalate_cons_cons, List.mem_append, List.mem_append] at member
      rcases member with (inside | dot) | later
      · exact here inside
      · rw [List.mem_singleton.mp dot]
        decide
      · exact ih (fun group member => digits group (List.mem_cons_of_mem _ member)) later

/-- The characters of an ip are digits and dots. -/
theorem toNat_of_dotted {ip : String} (dotted : Dotted ip) :
    ∀ char ∈ ip.toList, 46 ≤ char.toNat ∧ char.toNat ≤ 57 := by
  have ⟨groups, _, digits, joined⟩ := dotted
  rw [joined, String.toList_intercalate]
  apply toNat_of_mem_intercalate
  intro group member
  have ⟨text, inside, same⟩ := List.mem_map.mp member
  rw [← same]
  exact List.all_eq_true.mp (digits text inside).2.2

/-- The characters of a port are digits. -/
theorem toNat_of_port (port : Nat) :
    ∀ char ∈ port.repr.toList, 48 ≤ char.toNat ∧ char.toNat ≤ 57 := by
  intro char member
  rw [Nat.toList_repr] at member
  exact toNat_of_isDigit (Nat.isDigit_of_mem_toDigits (by decide) (by decide) member)

theorem toList_toString (peer : Peer) :
    peer.toString.toList = peer.ip.toList ++ ':' :: peer.port.toNat.repr.toList := by
  rw [Peer.toString, String.toList_append, String.toList_append, List.append_assoc]
  rfl

/-- The text of a peer has digits, dots and a colon. -/
theorem plain_toString {peer : Peer} (dotted : Dotted peer.ip) :
    Plain peer.toString.toList := by
  intro code member
  have ⟨char, inside, same⟩ := List.mem_map.mp member
  rw [toList_toString, List.mem_append, List.mem_cons] at inside
  rw [← same]
  rcases inside with ip | colon | port
  · have ⟨above, below⟩ := toNat_of_dotted dotted char ip
    omega
  · rw [colon]
    decide
  · have ⟨above, below⟩ := toNat_of_port _ char port
    omega

/-- Peers with one text are one. -/
theorem toString_inj {peer other : Peer} (dotted : Dotted peer.ip)
    (same : peer.toString.toList = other.toString.toList) : peer = other := by
  rw [toList_toString, toList_toString] at same
  have before : ':' ∉ peer.ip.toList := by
    intro member
    have ⟨_, below⟩ := toNat_of_dotted dotted ':' member
    exact absurd below (by decide)
  have after : ':' ∉ peer.port.toNat.repr.toList := by
    intro member
    have ⟨_, below⟩ := toNat_of_port _ ':' member
    exact absurd below (by decide)
  have ⟨ips, _, ports⟩ := (List.append_cons_inj_of_notMem before after).mp same
  have ip : peer.ip = other.ip := String.toList_inj.mp ips
  have values := congrArg (fun digits => Nat.ofDigitChars 10 digits 0) ports
  simp only [Nat.toList_repr, Nat.ofDigitChars_ten_toDigits] at values
  have port : peer.port = other.port := UInt32.toNat_inj.mp values
  cases peer
  cases other
  cases ip
  cases port
  rfl

/-- A hash is the sum that the loop returns. -/
theorem hash_eq {peer : Peer} {key : Nat}
    (returned : loop round 0 0 peer.toString.toList = some key) :
    hash round peer = some (UInt64.ofNat key) := by
  rw [hash, returned, Option.map_some]

/-- Hashes that are there are one only if the sums are. -/
theorem loop_eq_of_hash {peer other : Peer} {key key' : Nat}
    (returned : loop round 0 0 peer.toString.toList = some key)
    (returned' : loop round 0 0 other.toString.toList = some key')
    (same : hash round peer = hash round other) : key = key' := by
  rw [hash_eq returned, hash_eq returned'] at same
  have words := congrArg UInt64.toNat (Option.some.inj same)
  rw [UInt64.toNat_ofNat_of_lt' (loop_lt (by decide) returned),
    UInt64.toNat_ofNat_of_lt' (loop_lt (by decide) returned')] at words
  exact words

/-- Keys identify peers that have sums of their own. -/
theorem keysIdentify {peers : List Peer} (distinct : peers.Nodup)
    (dotted : ∀ peer ∈ peers, Dotted peer.ip)
    (short : ∀ peer ∈ peers, peer.toString.length ≤ 12)
    (defined : ∀ peer ∈ peers, ∃ key, loop round 0 0 peer.toString.toList = some key)
    (apart : ∀ peer ∈ peers, ∀ other ∈ peers,
      loop round 0 0 peer.toString.toList = loop round 0 0 other.toString.toList →
        peer = other) : KeysIdentify round peers := by
  have hashes : ∀ peer ∈ peers, ∀ other ∈ peers,
      hash round peer = hash round other → peer = other := by
    intro peer member other member' same
    have ⟨key, returned⟩ := defined peer member
    have ⟨key', returned'⟩ := defined other member'
    apply apart peer member other member'
    rw [returned, returned', loop_eq_of_hash returned returned' same]
  refine ⟨?_, ?_, hashes, ?_⟩
  · intro peer member
    exact (partialSum_lt_iff (plain_toString (dotted peer member))).mpr (short peer member)
  · intro peer member
    have ⟨key, returned⟩ := defined peer member
    exact ⟨_, hash_eq returned⟩
  · intro keyOf agrees
    apply Network.reaches distinct
    intro peer member other member' same
    apply hashes peer member other member'
    rw [agrees peer member, agrees other member', same]

/-- **In exact arithmetic** keys identify peers whose addresses have twelve characters at most. -/
theorem keysIdentify_id {peers : List Peer} (distinct : peers.Nodup)
    (dotted : ∀ peer ∈ peers, Dotted peer.ip)
    (short : ∀ peer ∈ peers, peer.toString.length ≤ 12) : KeysIdentify id peers := by
  have sums : ∀ peer ∈ peers,
      loop id 0 0 peer.toString.toList = some (weigh peer.toString.toList) := by
    intro peer member
    have plain := plain_toString (dotted peer member)
    have size := weigh_le plain (short peer member)
    have exact : loop id 0 0 peer.toString.toList =
        some (0 + 31 ^ 0 * weigh peer.toString.toList) :=
      loop_exact (fun _ _ => rfl) (Nat.le_refl _) plain (by omega)
    rw [exact, Nat.pow_zero, Nat.one_mul, Nat.zero_add]
  apply keysIdentify distinct dotted short
  · intro peer member
    exact ⟨_, sums peer member⟩
  · intro peer member other member' same
    rw [sums peer member, sums other member'] at same
    apply toString_inj (dotted peer member)
    exact drop_eq_of_near (plain_toString (dotted peer member))
      (plain_toString (dotted other member'))
      (Nat.le_of_eq (Nat.dist_eq_zero (Option.some.inj same))) 0 rfl

/-- **In doubles** they do so if besides no two addresses of more than ten characters differ only
in as many at the beginning as there are more than ten. -/
theorem keysIdentify_of_rounds (rounds : Doubles.Rounds round) {peers : List Peer}
    (distinct : peers.Nodup) (dotted : ∀ peer ∈ peers, Dotted peer.ip)
    (short : ∀ peer ∈ peers, peer.toString.length ≤ 12)
    (clear : ∀ peer ∈ peers, ∀ other ∈ peers, Blurred peer other → peer = other) :
    KeysIdentify round peers := by
  apply keysIdentify distinct dotted short
  · intro peer member
    have ⟨key, returned, _⟩ :=
      loop_near rounds (plain_toString (dotted peer member)) (short peer member)
    exact ⟨key, returned⟩
  · intro peer member other member' same
    apply clear peer member other member'
    exact loop_inj rounds (plain_toString (dotted peer member))
      (plain_toString (dotted other member')) (short peer member) (short other member') same

/-- **The keys of peers identify them in exact arithmetic exactly when no address has more than
twelve characters.** In doubles this is necessary, and enough if no two of the peers are blurred. -/
theorem keysIdentify_iff_short (peers : List Peer) (distinct : peers.Nodup)
    (dotted : ∀ peer ∈ peers, Dotted peer.ip) :
    (KeysIdentify id peers ↔ ∀ peer ∈ peers, peer.toString.length ≤ 12) ∧
      (KeysIdentify Doubles.nearest peers → ∀ peer ∈ peers, peer.toString.length ≤ 12) ∧
      ((∀ peer ∈ peers, peer.toString.length ≤ 12) →
        (∀ peer ∈ peers, ∀ other ∈ peers, Blurred peer other → peer = other) →
          KeysIdentify Doubles.nearest peers) := by
  have necessary {round : Nat → Nat} (identify : KeysIdentify round peers) :
      ∀ peer ∈ peers, peer.toString.length ≤ 12 := by
    intro peer member
    exact (partialSum_lt_iff (plain_toString (dotted peer member))).mp (identify.below peer member)
  refine ⟨⟨necessary, keysIdentify_id distinct dotted⟩, necessary, ?_⟩
  exact keysIdentify_of_rounds Doubles.rounds_nearest distinct dotted

/-- Two peers with addresses of eleven characters. -/
theorem keysIdentify_iff_short_eleven :
    KeysIdentify id [⟨"10.0.0.1", 80⟩, ⟨"10.0.0.2", 80⟩] ∧
      KeysIdentify Doubles.nearest [⟨"10.0.0.1", 80⟩, ⟨"10.0.0.2", 80⟩] := by
  have dotted : ∀ peer ∈ [Peer.mk "10.0.0.1" 80, Peer.mk "10.0.0.2" 80], Dotted peer.ip := by
    intro peer member
    rcases List.mem_cons.mp member with first | second
    · rw [first]
      exact ⟨["10", "0", "0", "1"], by decide⟩
    · rw [List.mem_singleton.mp second]
      exact ⟨["10", "0", "0", "2"], by decide⟩
  have ⟨exact, _, doubles⟩ := keysIdentify_iff_short _ (by decide) dotted
  exact ⟨exact.mpr (by decide), doubles (by decide) (by decide)⟩

/-- With an ordinary port the sum is too large, and two addresses that differ in their first
character share a key. -/
theorem not_keysIdentify_local :
    ¬ KeysIdentify id [⟨"127.0.0.1", 12345⟩] ∧
      ¬ KeysIdentify Doubles.nearest [⟨"127.0.0.1", 12345⟩] ∧
      ¬ KeysIdentify Doubles.nearest [⟨"1.1.1.1", 123⟩, ⟨"2.1.1.1", 123⟩] := by
  have long : ¬ partialSum ⟨"127.0.0.1", 12345⟩ 15 < 2 ^ 64 := by decide
  refine ⟨?_, ?_, ?_⟩
  · intro identify
    exact long (identify.below _ List.mem_cons_self 15)
  · intro identify
    exact long (identify.below _ List.mem_cons_self 15)
  · intro identify
    have same := identify.apart ⟨"1.1.1.1", 123⟩ (by decide) ⟨"2.1.1.1", 123⟩ (by decide)
      (by decide)
    exact absurd same (by decide)

end PeerHash
end Paxosme
