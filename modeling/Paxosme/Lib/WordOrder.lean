import Mathlib.Order.Basic
import Mathlib.Data.Prod.Lex
import Mathlib.Order.BoundedOrder.Basic

/-!
# The order of machine words

Sixty-four bit words carry the comparison of their executing primitives. This module gives
that comparison its linear order with least word zero, so that pairs of words can be
compared lexicographically with the general facts about lexicographic products.
-/

namespace WordOrder

/-- The executing comparison of words is a linear order. -/
instance wordLinearOrder : LinearOrder UInt64 where
  le_refl := UInt64.le_refl
  le_trans _ _ _ := UInt64.le_trans
  le_antisymm _ _ := UInt64.le_antisymm
  le_total := UInt64.le_total
  lt_iff_le_not_ge a b := by grind
  toDecidableLE := inferInstance
  toDecidableEq := inferInstance
  toDecidableLT := inferInstance
  compare_eq_compareOfLessAndEq _ _ := rfl

/-- Zero is the least word. -/
instance wordOrderBot : OrderBot UInt64 where
  bot := 0
  bot_le word := by
    rw [UInt64.le_iff_toNat_le]
    exact Nat.zero_le _

/-- A pair of words under the lexicographic order. -/
abbrev WordPair := UInt64 ×ₗ UInt64

/-- The pair of two words. -/
abbrev pair (major minor : UInt64) : WordPair := toLex (major, minor)

/-- Lexicographic comparison of two pairs, written on their words. -/
theorem pair_lt_iff (major minor major' minor' : UInt64) :
    pair major minor < pair major' minor' ↔
      major < major' ∨ major = major' ∧ minor < minor' :=
  Prod.Lex.toLex_lt_toLex

/-- Zero is below every word. -/
theorem zero_le (word : UInt64) : 0 ≤ word := bot_le

/-- The pair of zeros is below every pair. -/
theorem zero_le_pair (other : WordPair) : pair 0 0 ≤ other := bot_le

/-- No word is its own successor, wrap-around included. -/
theorem add_one_ne (word : UInt64) : word + 1 ≠ word := by
  intro same
  have shifted : word + 1 = word + 0 := by rw [same, UInt64.add_zero]
  exact absurd ((UInt64.add_right_inj word).mp shifted) (by decide)

/-- A word lies below a successor exactly when it is not above the word itself and the
addition does not wrap round. -/
theorem lt_add_one_iff (word bound : UInt64) :
    word < bound + 1 ↔ word ≤ bound ∧ bound ≠ 0xFFFFFFFFFFFFFFFF := by
  have size := bound.toNat_lt
  have sum : (bound + 1).toNat = (bound.toNat + 1) % 2 ^ 64 := UInt64.toNat_add bound 1
  have top : bound ≠ 0xFFFFFFFFFFFFFFFF ↔ bound.toNat ≠ 2 ^ 64 - 1 :=
    not_congr UInt64.toNat_inj.symm
  rw [top, UInt64.lt_iff_toNat_lt, UInt64.le_iff_toNat_le, sum]
  by_cases wraps : bound.toNat = 2 ^ 64 - 1
  · have zero : (bound.toNat + 1) % 2 ^ 64 = 0 := by omega
    rw [zero]
    omega
  · have small : (bound.toNat + 1) % 2 ^ 64 = bound.toNat + 1 := by
      apply Nat.mod_eq_of_lt
      omega
    rw [small]
    omega

end WordOrder
