import Mathlib.Algebra.Order.Field.Basic
import Mathlib.Data.Rat.Cast.Order
import Mathlib.Tactic.Linarith
import TypoSearch.Cutoff

/-! The share of the trigrams of a text that a budget of typos leaves, in exact numbers. It is below zero where
the budget takes more trigrams than there are, and only then is it clamped. -/
namespace TypoSearch.Cutoff

def surviving (length typos : Nat) : Rat := (length + 2 - 3 * typos) / (length + 2)

theorem trigramsPositive (length : Nat) : (0 : Rat) < length + 2 := by
  have cast : (0 : Rat) ≤ length := Nat.cast_nonneg length
  linarith

theorem survivingLost (length typos : Nat) : surviving length typos = 1 - 3 * typos / (length + 2) := by
  rw [surviving, sub_div, div_self (ne_of_gt (trigramsPositive length))]

theorem survivingPart {length typos : Nat} (le : 3 * typos ≤ length + 2) :
    surviving length typos = ((length + 2 - 3 * typos : Nat) : Rat) / (length + 2 : Nat) := by
  rw [surviving, Nat.cast_sub le]
  push_cast
  rfl

theorem survivingFalls (length : Nat) : Antitone (surviving length) := by
  intro fewer more le
  have cast : (fewer : Rat) ≤ more := Nat.cast_le.mpr le
  exact div_le_div_of_nonneg_right (by linarith) (le_of_lt (trigramsPositive length))

theorem survivingRises (typos : Nat) : Monotone fun length => surviving length typos := by
  intro shorter longer le
  have cast : (shorter : Rat) ≤ longer := Nat.cast_le.mpr le
  have lost : (0 : Rat) ≤ 3 * typos := mul_nonneg (by decide) (Nat.cast_nonneg typos)
  simp only [survivingLost]
  exact sub_le_sub_left (div_le_div_of_nonneg_left lost (trigramsPositive shorter) (by linarith)) 1

theorem survivingWhole {length typos : Nat} : surviving length typos = 1 ↔ typos = 0 := by
  have trigrams := ne_of_gt (trigramsPositive length)
  rw [survivingLost, sub_eq_self, div_eq_zero_iff, or_iff_left trigrams]
  simp

theorem survivingMost (length typos : Nat) : surviving length typos ≤ 1 :=
  le_of_le_of_eq (survivingFalls length (Nat.zero_le typos)) (survivingWhole.mpr rfl)

theorem survivingNone {length typos : Nat} : surviving length typos ≤ 0 ↔ length + 2 ≤ 3 * typos := by
  rw [survivingLost, sub_nonpos, one_le_div (trigramsPositive length)]
  exact_mod_cast Iff.rfl

theorem survivorsExact (length typos : Nat) :
    Scale.survivors (length : Rat) (typos : Rat) = max 0 (surviving length typos) := (max_def _ _).symm

end TypoSearch.Cutoff
