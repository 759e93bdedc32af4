import Mathlib.Data.Nat.Dist
import Mathlib.Data.Nat.Digits.Defs

/-!
# Numerals of a window of digits

A numeral in a base whose digits, least significant first, lie in a window that is narrower than
the base but need not begin at zero, as the codes of characters do. Such a numeral has one value
only, and of two that have almost the same value all but the first digits are the same.
-/

namespace Numerals

/-- The digits lie between `low` and `low + width`. -/
def Within (low width : Nat) (digits : List Nat) : Prop :=
  ∀ digit ∈ digits, low ≤ digit ∧ digit ≤ low + width

variable {base low width : Nat} {first second digits : List Nat}

/-- The digits after some lie there too. -/
theorem Within.drop (within : Within low width digits) (count : Nat) :
    Within low width (digits.drop count) :=
  fun digit member => within digit (List.mem_of_mem_drop member)

/-- The values of the tails are closer by about the base. -/
theorem tail_le (positive : 0 < base) (left : Within low width first)
    (right : Within low width second) {gap : Nat}
    (near : Nat.ofDigits base first ≤ Nat.ofDigits base second + gap) :
    Nat.ofDigits base first.tail ≤ Nat.ofDigits base second.tail + (gap + width) / base := by
  have closer : base * Nat.ofDigits base first.tail ≤
      base * Nat.ofDigits base second.tail + (gap + width) := by
    cases first with
    | nil => simp
    | cons digit rest =>
      have ⟨above, _⟩ := left digit List.mem_cons_self
      rw [Nat.ofDigits_cons] at near
      cases second with
      | nil =>
        rw [Nat.ofDigits_nil] at near
        simp only [List.tail_cons, List.tail_nil, Nat.ofDigits_nil]
        omega
      | cons other rest' =>
        have ⟨_, below⟩ := right other List.mem_cons_self
        rw [Nat.ofDigits_cons] at near
        simp only [List.tail_cons]
        omega
  have divided : Nat.ofDigits base first.tail - Nat.ofDigits base second.tail ≤
      (gap + width) / base := by
    rw [Nat.le_div_iff_mul_le positive, Nat.mul_comm, Nat.mul_sub]
    omega
  omega

/-- Values at a distance come closer by about the base with every digit that is dropped. -/
theorem dist_drop (positive : 0 < base) (left : Within low width first)
    (right : Within low width second) {gap count : Nat}
    (near : Nat.dist (Nat.ofDigits base (first.drop count))
      (Nat.ofDigits base (second.drop count)) ≤ gap) :
    Nat.dist (Nat.ofDigits base (first.drop (count + 1)))
      (Nat.ofDigits base (second.drop (count + 1))) ≤ (gap + width) / base := by
  simp only [Nat.dist] at near ⊢
  have toSecond : Nat.ofDigits base (first.drop count) ≤
      Nat.ofDigits base (second.drop count) + gap := by omega
  have toFirst : Nat.ofDigits base (second.drop count) ≤
      Nat.ofDigits base (first.drop count) + gap := by omega
  have above := tail_le positive (left.drop count) (right.drop count) toSecond
  have below := tail_le positive (right.drop count) (left.drop count) toFirst
  rw [List.tail_drop, List.tail_drop] at above below
  omega

/-- **Numerals of one value are the same.** -/
theorem ofDigits_inj (nonzero : 0 < low) (narrow : width < base)
    (left : Within low width first) (right : Within low width second)
    (same : Nat.ofDigits base first = Nat.ofDigits base second) : first = second := by
  induction first generalizing second with
  | nil =>
    cases second with
    | nil => rfl
    | cons other rest' =>
      have ⟨above, _⟩ := right other List.mem_cons_self
      rw [Nat.ofDigits_nil, Nat.ofDigits_cons] at same
      omega
  | cons digit rest ih =>
    cases second with
    | nil =>
      have ⟨above, _⟩ := left digit List.mem_cons_self
      rw [Nat.ofDigits_nil, Nat.ofDigits_cons] at same
      omega
    | cons other rest' =>
      have positive : 0 < base := by omega
      have closed : (0 + width) / base = 0 := by
        rw [Nat.zero_add]
        exact Nat.div_eq_of_lt narrow
      have whole : Nat.dist (Nat.ofDigits base ((digit :: rest).drop 0))
          (Nat.ofDigits base ((other :: rest').drop 0)) ≤ 0 := by
        rw [List.drop_zero, List.drop_zero, same, Nat.dist_self]
      have tails := dist_drop positive left right whole
      rw [closed] at tails
      have equal : Nat.ofDigits base rest = Nat.ofDigits base rest' :=
        Nat.eq_of_dist_eq_zero (Nat.le_zero.mp tails)
      rw [Nat.ofDigits_cons, Nat.ofDigits_cons, equal] at same
      rw [Nat.add_right_cancel same, ih (fun digit member => left digit (List.mem_cons_of_mem _ member))
        (fun digit member => right digit (List.mem_cons_of_mem _ member)) equal]

/-- Numerals whose values are close are the same from the digit on where the distance is gone. -/
theorem drop_eq (nonzero : 0 < low) (narrow : width < base)
    (left : Within low width first) (right : Within low width second) {gap count : Nat}
    (near : Nat.dist (Nat.ofDigits base first) (Nat.ofDigits base second) ≤ gap)
    (gone : (fun gap => (gap + width) / base)^[count] gap = 0) :
    first.drop count = second.drop count := by
  have positive : 0 < base := by omega
  have closer (count : Nat) : Nat.dist (Nat.ofDigits base (first.drop count))
      (Nat.ofDigits base (second.drop count)) ≤
        (fun gap => (gap + width) / base)^[count] gap := by
    induction count with
    | zero => exact near
    | succ count ih =>
      rw [Function.iterate_succ_apply']
      exact dist_drop positive left right ih
  have last := closer count
  rw [gone] at last
  exact ofDigits_inj nonzero narrow (left.drop count) (right.drop count)
    (Nat.eq_of_dist_eq_zero (Nat.le_zero.mp last))

/-- A numeral of more than some digits is at least the weight of the next one. -/
theorem le_ofDigits (within : Within low width digits) {count : Nat}
    (long : count < digits.length) : low * base ^ count ≤ Nat.ofDigits base digits := by
  induction digits generalizing count with
  | nil => exact absurd long (Nat.not_lt_zero _)
  | cons digit rest ih =>
    have ⟨above, _⟩ := within digit List.mem_cons_self
    rw [Nat.ofDigits_cons]
    cases count with
    | zero =>
      rw [Nat.pow_zero, Nat.mul_one]
      omega
    | succ count =>
      have higher := ih (fun digit member => within digit (List.mem_cons_of_mem _ member))
        (Nat.lt_of_succ_lt_succ long)
      calc low * base ^ (count + 1) = base * (low * base ^ count) := by ring
        _ ≤ base * Nat.ofDigits base rest := Nat.mul_le_mul_left _ higher
        _ ≤ digit + base * Nat.ofDigits base rest := Nat.le_add_left _ _

/-- A numeral is at most the one that repeats the greatest digit. -/
theorem ofDigits_le (within : Within low width digits) :
    base * Nat.ofDigits (base + 1) digits + (low + width) ≤
      (low + width) * (base + 1) ^ digits.length := by
  induction digits with
  | nil => simp
  | cons digit rest ih =>
    have ⟨_, below⟩ := within digit List.mem_cons_self
    have lower := ih fun digit member => within digit (List.mem_cons_of_mem _ member)
    have digits : base * digit ≤ base * (low + width) := Nat.mul_le_mul_left _ below
    calc base * Nat.ofDigits (base + 1) (digit :: rest) + (low + width)
        = base * digit + (low + width) +
            (base + 1) * (base * Nat.ofDigits (base + 1) rest) := by
          rw [Nat.ofDigits_cons]
          ring
      _ ≤ base * (low + width) + (low + width) +
            (base + 1) * (base * Nat.ofDigits (base + 1) rest) := by omega
      _ = (base + 1) * (base * Nat.ofDigits (base + 1) rest + (low + width)) := by ring
      _ ≤ (base + 1) * ((low + width) * (base + 1) ^ rest.length) :=
          Nat.mul_le_mul_left _ lower
      _ = (low + width) * (base + 1) ^ (rest.length + 1) := by ring

end Numerals
