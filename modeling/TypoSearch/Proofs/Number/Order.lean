import Mathlib.Algebra.Order.Field.Basic
import Mathlib.Algebra.Order.Ring.Rat
import Mathlib.Order.Monotone.Odd
import TypoSearch.Proofs.Number.Rounding

/-! Rounding to the nearest double keeps the order of exact numbers, and keeps a representable magnitude as it
is. So it is one number for one ratio, in whatever terms the ratio is given. -/
namespace TypoSearch.Number

structure Rounding (round : Rat → Rat) : Prop where
  monotone : Monotone round
  zero : round 0 = 0
  one : round 1 = 1

theorem exactRounding : Rounding id := ⟨monotone_id, rfl, rfl⟩

namespace Binary64

theorem remainderRises {n d m e : Nat} (le : n * e ≤ m * d) (same : n / d = m / e) :
    n % d * e ≤ m % e * d := by
  have whole : n % d * e + d * (n / d) * e = n * e := by rw [← Nat.add_mul, Nat.mod_add_div]
  have other : m % e * d + e * (m / e) * d = m * d := by rw [← Nat.add_mul, Nat.mod_add_div]
  have shared : d * (n / d) * e = e * (m / e) * d := by
    rw [same, Nat.mul_right_comm, Nat.mul_comm d e, Nat.mul_right_comm]
  omega

section
variable {n d m e : Nat} (first : 0 < d) (second : 0 < e)
include first second

theorem middleRises (le : n * e ≤ m * d) : (d ≤ 2 * n → e ≤ 2 * m) ∧ (d < 2 * n → e < 2 * m) := by
  have twice : 2 * n * e ≤ d * (2 * m) :=
    calc 2 * n * e = 2 * (n * e) := Nat.mul_assoc ..
      _ ≤ 2 * (m * d) := Nat.mul_le_mul_left 2 le
      _ = d * (2 * m) := by rw [Nat.mul_comm d, Nat.mul_assoc]
  refine ⟨fun reached => ?_, fun passed => ?_⟩
  · exact Nat.le_of_mul_le_mul_left (Nat.le_trans (Nat.mul_le_mul_right e reached) twice) first
  · have below := Nat.mul_lt_mul_of_pos_right passed second
    exact Nat.lt_of_mul_lt_mul_left (Nat.lt_of_lt_of_le below twice)

theorem quotientRises (le : n * e ≤ m * d) : n / d ≤ m / e := by
  rw [Nat.le_div_iff_mul_le second]
  refine Nat.le_of_mul_le_mul_right ?_ first
  calc n / d * e * d = n / d * d * e := Nat.mul_right_comm ..
    _ ≤ n * e := Nat.mul_le_mul_right e (Nat.div_mul_le_self n d)
    _ ≤ m * d := le

theorem divHalfEvenRises (le : n * e ≤ m * d) : divHalfEven n d ≤ divHalfEven m e := by
  have least := divHalfEvenAtLeast m e
  rcases Nat.lt_or_eq_of_le (quotientRises first second le) with below | same
  · have most := divHalfEvenAtMostNext n d
    omega
  · -- Both quotients are one number, so the remainders decide which way each is rounded.
    obtain ⟨reached, passed⟩ := middleRises first second (remainderRises le same)
    unfold divHalfEven
    dsimp only
    rw [same]
    split
    · split
      · exact Nat.le_refl _
      · split <;> omega
    · split
      · rw [if_neg (by omega), if_pos (by omega)]
      · rw [if_neg (by omega)]
        split <;> omega

theorem nearestRises (le : n * e ≤ m * d) : nearest n d ≤ nearest m e := by
  -- In different binades a power of two lies between the ratios, and none of them is rounded past it.
  rcases Nat.lt_or_eq_of_le (logRises (quotientRises first second le)) with below | same
  · have some : m / e ≠ 0 := by
      rintro none
      rw [none] at below
      simp at below
    have power := twoPowRepresentable (m / e).log2
    have high : 2 ^ (m / e).log2 ≤ m / e := Nat.log2_self_le some
    have low : n / d < 2 ^ (m / e).log2 :=
      Nat.lt_of_lt_of_le Nat.lt_log2_self (Nat.pow_le_pow_right (by decide) below)
    rw [Nat.div_lt_iff_lt_mul first, Nat.mul_comm] at low
    rw [Nat.le_div_iff_mul_le second, Nat.mul_comm] at high
    exact Nat.le_trans (nearestAtMost first (Nat.le_of_lt low) power) (nearestAtLeast second high power)
  · have spacings : spacing (n / d) = spacing (m / e) := by rw [spacing, spacing, same]
    have positive := spacingPositive (m / e)
    unfold nearest
    dsimp only
    rw [spacings]
    refine Nat.mul_le_mul_right _ (divHalfEvenRises (Nat.mul_pos first positive) (Nat.mul_pos second positive) ?_)
    rw [← Nat.mul_assoc, ← Nat.mul_assoc]
    exact Nat.mul_le_mul_right _ le

end

theorem nearestSame {n d m e : Nat} (first : 0 < d) (second : 0 < e) (same : n * e = m * d) :
    nearest n d = nearest m e :=
  Nat.le_antisymm (nearestRises first second (Nat.le_of_eq same))
    (nearestRises second first (Nat.le_of_eq same.symm))

theorem nearestExact {d u : Nat} (positive : 0 < d) (exact : Representable u) : nearest (d * u) d = u :=
  Nat.le_antisymm (nearestAtMost positive (Nat.le_refl _) exact) (nearestAtLeast positive (Nat.le_refl _) exact)

def nearestRat (x : Rat) : Rat := x.num.sign * ((nearest (x.num.natAbs * unit) x.den : Rat) / unit)

theorem ratioNat {x : Rat} (sign : 0 ≤ x) : x = (x.num.natAbs : Rat) / x.den := by
  have number : (x.num.natAbs : Int) = x.num := Int.natAbs_of_nonneg (Rat.num_nonneg.mpr sign)
  rw [← Int.cast_natCast, number, Rat.num_div_den]

theorem ratioLe {n d m e : Nat} (first : 0 < d) (second : 0 < e) :
    (n : Rat) / d ≤ (m : Rat) / e ↔ n * e ≤ m * d := by
  rw [div_le_div_iff₀ (Nat.cast_pos.mpr first) (Nat.cast_pos.mpr second)]
  exact_mod_cast Iff.rfl

theorem nearestNonnegative {x : Rat} (sign : 0 ≤ x) :
    nearestRat x = (nearest (x.num.natAbs * unit) x.den : Rat) / unit := by
  rw [nearestRat]
  rcases lt_or_eq_of_le sign with positive | rfl
  · rw [Int.sign_eq_one_of_pos (Rat.num_pos.mpr positive), Int.cast_one, one_mul]
  · have none : nearest 0 1 = 0 := nearestExact Nat.one_pos (Nat.dvd_zero _)
    simp [none]

theorem nearestUnitsRise {n d m e : Nat} (first : 0 < d) (second : 0 < e) (le : (n : Rat) / d ≤ (m : Rat) / e) :
    nearest (n * unit) d ≤ nearest (m * unit) e := by
  refine nearestRises first second ?_
  rw [Nat.mul_right_comm, Nat.mul_right_comm m]
  exact Nat.mul_le_mul_right unit ((ratioLe first second).mp le)

theorem nearestQuotient (n : Nat) {d : Nat} (positive : 0 < d) :
    nearestRat ((n : Rat) / d) = (nearest (n * unit) d : Rat) / unit := by
  have sign : (0 : Rat) ≤ (n : Rat) / d := div_nonneg (Nat.cast_nonneg n) (Nat.cast_nonneg d)
  have parts := ratioNat sign
  have whole := Rat.den_pos ((n : Rat) / d)
  rw [nearestNonnegative sign, Nat.le_antisymm (nearestUnitsRise whole positive (le_of_eq parts.symm))
    (nearestUnitsRise positive whole (le_of_eq parts))]

theorem nearestMonotone : Monotone nearestRat := by
  refine monotone_of_odd_of_monotoneOn_nonneg (fun x => ?_) fun x sign y other le => ?_
  · simp [nearestRat]
  · rw [nearestNonnegative sign, nearestNonnegative other]
    have units : nearest (x.num.natAbs * unit) x.den ≤ nearest (y.num.natAbs * unit) y.den := by
      refine nearestUnitsRise x.den_pos y.den_pos ?_
      rwa [← ratioNat sign, ← ratioNat other]
    exact div_le_div_of_nonneg_right (Nat.cast_le.mpr units) (Nat.cast_nonneg unit)

theorem unitNonzero : (unit : Rat) ≠ 0 := Nat.cast_ne_zero.mpr (Nat.ne_of_gt unitPositive)

theorem nearestRounding : Rounding nearestRat := by
  have whole : nearest (1 * unit) 1 = unit := nearestExact Nat.one_pos unitRepresentable
  refine ⟨nearestMonotone, by simp [nearestRat], ?_⟩
  have one := nearestQuotient 1 Nat.one_pos
  rwa [whole, div_self unitNonzero, Nat.cast_one, div_one] at one

end Binary64
end TypoSearch.Number
