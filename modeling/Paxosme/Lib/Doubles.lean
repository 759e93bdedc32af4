import Mathlib.Data.Nat.Dist

/-!
# Whole numbers as doubles

A double keeps fifty-three bits of a whole number. Rounding to one moves a number by at most one
part in 2⁵³ of it, and a number below 2⁵³ not at all.
-/

namespace Doubles

/-- The double nearest to a whole number; of two, the one with the even significand. -/
def nearest (n : Nat) : Nat :=
  let unit := 2 ^ (n.log2 - 52)
  if unit < 2 * (n % unit) ∨ unit = 2 * (n % unit) ∧ n / unit % 2 = 1 then
    (n / unit + 1) * unit
  else n / unit * unit

/-- A rounding moves a number by at most one part in 2⁵³. -/
def Rounds (round : Nat → Nat) : Prop :=
  ∀ n, 2 ^ 53 * Nat.dist (round n) n ≤ n

namespace Rounds

variable {round : Nat → Nat}

/-- Numbers below 2⁵³ stay as they are. -/
theorem exact (rounds : Rounds round) {n : Nat} (small : n < 2 ^ 53) : round n = n := by
  have moved := rounds n
  apply Nat.eq_of_dist_eq_zero
  omega

/-- A number of at most `gap` times 2⁵³ moves by at most `gap`. -/
theorem near (rounds : Rounds round) {n gap : Nat} (bound : n ≤ 2 ^ 53 * gap) :
    Nat.dist (round n) n ≤ gap := by
  have moved := rounds n
  omega

end Rounds

/-- A multiple of a unit that is next to a number is off by half a unit at most. -/
theorem nearest_near (n : Nat) : 2 * Nat.dist (nearest n) n ≤ 2 ^ (n.log2 - 52) := by
  have parts := Nat.div_add_mod n (2 ^ (n.log2 - 52))
  have rest := Nat.mod_lt n (Nat.two_pow_pos (n.log2 - 52))
  rw [Nat.mul_comm] at parts
  simp only [nearest]
  split
  next up =>
    rw [Nat.add_mul, Nat.one_mul]
    simp only [Nat.dist]
    omega
  next down =>
    simp only [Nat.dist]
    omega

/-- The nearest double is a rounding. -/
theorem rounds_nearest : Rounds nearest := by
  intro n
  have near := nearest_near n
  by_cases fine : n.log2 ≤ 52
  · have unit : n.log2 - 52 = 0 := by omega
    rw [unit] at near
    omega
  · have positive : n ≠ 0 := by
      intro zero
      rw [zero] at fine
      exact fine (by decide)
    have least := Nat.log2_self_le positive
    have split : n.log2 = (n.log2 - 52) + 52 := by omega
    rw [split, Nat.pow_add] at least
    omega

end Doubles
