import Paxosme.Verif.VoteCounting

/-!
# Majorities that intersect

`GetMajorityCount` rounds the product of the threshold and the number of members up and converts
it to a `size_t`. Two sets of so many members have a member in common exactly when the count
exceeds half of the members, rounded down: where the conversion is defined a threshold of more than
one half always does, one half itself only where the number of members is odd. Nothing in the source
keeps the threshold where the conversion is defined.
-/

namespace Paxosme
namespace PaxProposer

/-- Any two sets of members that pass the tests of a counter for a majority have a member in
common. -/
def QuorumsIntersect (options : PaxosOptions) : Prop :=
  ∀ members : Finset NodeId, members.card = options.memberCount →
    ∀ (first second : ProposalCounter) (vote other : Vote),
      counted first vote ⊆ members → counted second other ⊆ members →
      isMajority first options vote = true → isMajority second options other = true →
      ∃ nodeId, nodeId ∈ counted first vote ∧ nodeId ∈ counted second other

/-- A `size_t` holds a number that is rounded up exactly between these bounds. -/
theorem ceil_in_size_iff (number : ℚ) :
    0 ≤ ⌈number⌉ ∧ ⌈number⌉ < 2 ^ 64 ↔ -1 < number ∧ number ≤ 2 ^ 64 - 1 := by
  have low : 0 ≤ ⌈number⌉ ↔ -1 < number := by
    rw [show (0 : Int) ≤ ⌈number⌉ ↔ -1 < ⌈number⌉ by omega, Int.lt_ceil]
    norm_num
  have high : ⌈number⌉ < 2 ^ 64 ↔ number ≤ 2 ^ 64 - 1 := by
    rw [show ⌈number⌉ < (2 : Int) ^ 64 ↔ ⌈number⌉ ≤ 2 ^ 64 - 1 by omega, Int.ceil_le]
    norm_num
  rw [low, high]

/-- The majority count exceeds half of the members, rounded down: the product of the threshold and
their number does and a `size_t` holds it, or none holds it and what the conversion gives does. -/
def ExceedsHalf (options : PaxosOptions) : Prop :=
  let product := options.majorityThreshold * options.memberCount
  ((options.memberCount / 2 : Nat) < product ∧ product ≤ 2 ^ 64 - 1) ∨
    ((product ≤ -1 ∨ 2 ^ 64 - 1 < product) ∧
      options.memberCount / 2 < options.undefinedSize.toNat)

/-- Twice a majority exceeds the number of members exactly when it exceeds half of them, rounded
down. -/
theorem members_lt_two_majorities_iff (options : PaxosOptions) :
    options.memberCount < 2 * options.getMajorityCount ↔ ExceedsHalf options := by
  have half : options.memberCount < 2 * options.getMajorityCount ↔
      options.memberCount / 2 < options.getMajorityCount := by omega
  have positive : (0 : ℚ) ≤ (options.memberCount / 2 : Nat) := Nat.cast_nonneg _
  rw [half, PaxosOptions.getMajorityCount, PaxosOptions.toSize, ExceedsHalf]
  generalize options.majorityThreshold * options.memberCount = product
  by_cases fits : 0 ≤ ⌈product⌉ ∧ ⌈product⌉ < 2 ^ 64
  · obtain ⟨low, high⟩ := (ceil_in_size_iff product).mp fits
    rw [if_pos fits, Int.lt_toNat, Int.lt_ceil, Int.cast_natCast]
    constructor
    · intro more
      exact .inl ⟨more, high⟩
    · rintro (⟨more, -⟩ | ⟨outside, -⟩)
      · exact more
      · rcases outside with below | above
        · exact absurd low (not_lt.mpr below)
        · exact absurd high (not_le.mpr above)
  · have outside : product ≤ -1 ∨ 2 ^ 64 - 1 < product := by
      rwa [ceil_in_size_iff, not_and_or, not_lt, not_le] at fits
    rw [if_neg fits]
    constructor
    · intro more
      exact .inr ⟨outside, more⟩
    · rintro (⟨more, high⟩ | ⟨-, more⟩)
      · rcases outside with below | above
        · linarith only [more, below, positive]
        · exact absurd high (not_le.mpr above)
      · exact more

/-- A counter that holds some ids as promises and nothing else. -/
def heldUnder (ids : Finset NodeId) : ProposalCounter := { promises := ids }

/-- The ids of a range of numbers. -/
def idsOf (start finish : Nat) : Finset NodeId := (Finset.Ico start finish).image UInt64.ofNat

theorem mem_idsOf {start finish : Nat} (fits : finish < 2 ^ 64) (nodeId : NodeId) :
    nodeId ∈ idsOf start finish ↔ start ≤ nodeId.toNat ∧ nodeId.toNat < finish := by
  rw [idsOf, Finset.mem_image]
  constructor
  · rintro ⟨number, inside, rfl⟩
    rw [Finset.mem_Ico] at inside
    have below : number < 2 ^ 64 := by omega
    rw [UInt64.toNat_ofNat_of_lt' below]
    exact inside
  · intro inside
    exact ⟨nodeId.toNat, Finset.mem_Ico.mpr inside, UInt64.ofNat_toNat⟩

/-- Numbers below the largest word have different ids. -/
theorem card_idsOf (start : Nat) {finish : Nat} (fits : finish < 2 ^ 64) :
    (idsOf start finish).card = finish - start := by
  rw [idsOf, Finset.card_image_of_injOn, Nat.card_Ico]
  intro first inside second inside' same
  have below : first < 2 ^ 64 := lt_trans (Finset.mem_Ico.mp inside).2 fits
  have below' : second < 2 ^ 64 := lt_trans (Finset.mem_Ico.mp inside').2 fits
  have words := congrArg UInt64.toNat same
  rw [UInt64.toNat_ofNat_of_lt' below, UInt64.toNat_ofNat_of_lt' below'] at words
  exact words

/-- Where two majorities fit into the members side by side, two of them have no member in
common. -/
theorem exists_apart {options : PaxosOptions} (fits : options.memberCount < 2 ^ 64)
    (room : 2 * options.getMajorityCount ≤ options.memberCount) :
    ∃ members first second : Finset NodeId, members.card = options.memberCount ∧
      first ⊆ members ∧ second ⊆ members ∧ first.card = options.getMajorityCount ∧
      second.card = options.getMajorityCount ∧ Disjoint first second := by
  generalize options.getMajorityCount = count at room
  refine ⟨idsOf 0 options.memberCount, idsOf 0 count, idsOf count (2 * count), ?_, ?_, ?_, ?_, ?_,
    ?_⟩
  · rw [card_idsOf 0 fits, Nat.sub_zero]
  · intro nodeId member
    rw [mem_idsOf (by omega)] at member ⊢
    omega
  · intro nodeId member
    rw [mem_idsOf (by omega)] at member ⊢
    omega
  · rw [card_idsOf 0 (by omega), Nat.sub_zero]
  · rw [card_idsOf count (by omega)]
    omega
  · refine Finset.disjoint_left.mpr fun nodeId here there => ?_
    rw [mem_idsOf (by omega)] at here there
    omega

/-- **Quorums intersect exactly when the majority count exceeds half of the members, rounded
down.** -/
theorem quorumsIntersect_iff (options : PaxosOptions) (fits : options.memberCount < 2 ^ 64) :
    QuorumsIntersect options ↔ ExceedsHalf options := by
  rw [← members_lt_two_majorities_iff]
  constructor
  · intro intersect
    by_contra room
    obtain ⟨members, first, second, size, inside, inside', large, large', apart⟩ :=
      exists_apart fits (not_lt.mp room)
    have passes : ∀ ids : Finset NodeId, ids.card = options.getMajorityCount →
        isMajority (heldUnder ids) options .promise = true := fun ids large =>
      (isMajority_iff _ _ _).mpr large.ge
    obtain ⟨nodeId, here, there⟩ := intersect members size (heldUnder first) (heldUnder second)
      .promise .promise inside inside' (passes first large) (passes second large')
    exact Finset.disjoint_left.mp apart here there
  · intro more members size first second vote other inside inside' large large'
    rw [isMajority_iff] at large large'
    have common := Finset.inter_nonempty_of_card_lt_card_add_card inside inside' (by omega)
    obtain ⟨nodeId, both⟩ := common
    exact ⟨nodeId, Finset.mem_inter.mp both⟩

/-- Three members and a threshold of one half. -/
theorem quorumsIntersect_of_three : QuorumsIntersect ⟨7, 1 / 2, 3, 0⟩ :=
  (quorumsIntersect_iff ⟨7, 1 / 2, 3, 0⟩ (by decide)).mpr (.inl (by norm_num))

/-- Of two members with a threshold of one half each is a majority. -/
theorem quorumsIntersect_two_apart : ¬ QuorumsIntersect ⟨7, 1 / 2, 2, 0⟩ := by
  intro intersect
  have one : PaxosOptions.getMajorityCount ⟨7, 1 / 2, 2, 0⟩ = 1 := by
    norm_num [PaxosOptions.getMajorityCount, PaxosOptions.toSize]
  have passes : ∀ ids : Finset NodeId, ids.card = 1 →
      isMajority (heldUnder ids) ⟨7, 1 / 2, 2, 0⟩ .promise = true := fun ids large => by
    rw [isMajority_iff, one]
    exact large.ge
  obtain ⟨nodeId, here, there⟩ := intersect {7, 8} (by decide) (heldUnder {7}) (heldUnder {8})
    .promise .promise (by decide) (by decide) (passes _ (by decide)) (passes _ (by decide))
  have first : nodeId = 7 := Finset.mem_singleton.mp here
  have second : nodeId = 8 := Finset.mem_singleton.mp there
  exact absurd (first.symm.trans second) (by decide)

end PaxProposer
end Paxosme
