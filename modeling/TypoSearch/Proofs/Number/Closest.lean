import Mathlib.Algebra.Order.Field.Rat
import Mathlib.Tactic.Linarith
import TypoSearch.Proofs.Number.Order

/-! No representable magnitude lies nearer to a number than the one it is rounded to. Neighbours among them are
further apart than the last of sixteen digits, so a number that agrees with a representable one so far is rounded
to it. -/
namespace TypoSearch.Number.Binary64

theorem halfEvenDown {n d : Nat} (down : divHalfEven n d = n / d) : 2 * (n % d) ≤ d := by
  unfold divHalfEven at down
  dsimp only at down
  split at down
  · omega
  · split at down <;> omega

theorem halfEvenUp {n d : Nat} (up : divHalfEven n d = n / d + 1) : d ≤ 2 * (n % d) := by
  unfold divHalfEven at up
  dsimp only at up
  split at up <;> omega

theorem nearestUnits (n d : Nat) :
    d * nearest n d = d * spacing (n / d) * divHalfEven n (d * spacing (n / d)) := by
  unfold nearest
  dsimp only
  ac_rfl

theorem spacingNearest (n d : Nat) : spacing (n / d) ∣ nearest n d := Nat.dvd_mul_left _ _

theorem roundedDown {n d : Nat} (positive : 0 < d) (down : d * nearest n d ≤ n) :
    2 * n ≤ 2 * (d * nearest n d) + d * spacing (n / d) := by
  have parts := Nat.div_add_mod n (d * spacing (n / d))
  have small := Nat.mod_lt n (Nat.mul_pos positive (spacingPositive (n / d)))
  rw [nearestUnits] at down ⊢
  rcases Nat.lt_or_eq_of_le (divHalfEvenAtLeast n (d * spacing (n / d))) with above | same
  · have passed := Nat.mul_le_mul_left (d * spacing (n / d)) (Nat.succ_le_of_lt above)
    rw [Nat.mul_succ] at passed
    omega
  · have half := halfEvenDown same.symm
    rw [← same]
    omega

theorem roundedUp {n d : Nat} (up : n ≤ d * nearest n d) :
    2 * (d * nearest n d) ≤ 2 * n + d * spacing (n / d) := by
  have parts := Nat.div_add_mod n (d * spacing (n / d))
  rw [nearestUnits] at up ⊢
  rcases Nat.lt_or_eq_of_le (divHalfEvenAtMostNext n (d * spacing (n / d))) with low | same
  · have passed := Nat.mul_le_mul_left (d * spacing (n / d)) (Nat.le_of_lt_succ low)
    omega
  · have half := halfEvenUp same
    rw [same, Nat.mul_succ]
    omega

theorem gridStep {s a b : Nat} (first : s ∣ a) (second : s ∣ b) (less : a < b) : a + s ≤ b := by
  have step := Nat.le_of_dvd (Nat.sub_pos_of_lt less) (Nat.dvd_sub second first)
  omega

section
variable {n d u : Nat} (positive : 0 < d) (exact : Representable u)
include positive exact

theorem closestAbove (bound : n ≤ d * u) : n ≤ d * nearest n d ∨ 2 * n ≤ d * nearest n d + d * u := by
  rcases Nat.lt_or_ge (d * nearest n d) n with less | reached
  · have quotient : n / d ≤ u := Nat.div_le_of_le_mul bound
    have below : nearest n d < u := Nat.lt_of_mul_lt_mul_left (Nat.lt_of_lt_of_le less bound)
    have step := gridStep (spacingNearest n d) (Nat.dvd_trans (spacingDivides quotient) exact) below
    have half := roundedDown positive (Nat.le_of_lt less)
    have scaled := Nat.mul_le_mul_left d step
    rw [Nat.mul_add] at scaled
    exact .inr (by omega)
  · exact .inl reached

theorem closestBelow (bound : d * u ≤ n) : d * nearest n d ≤ n ∨ d * nearest n d + d * u ≤ 2 * n := by
  rcases Nat.lt_or_ge n (d * nearest n d) with more | reached
  · have floor : n / d / spacing (n / d) * spacing (n / d) < nearest n d :=
      Nat.lt_of_le_of_lt (Nat.div_mul_le_self _ _) ((Nat.div_lt_iff_lt_mul positive).mpr (by rwa [Nat.mul_comm]))
    have step := gridStep (Nat.dvd_mul_left _ _) (spacingNearest n d) floor
    have half := roundedUp (Nat.le_of_lt more)
    have grid := gridReached positive bound exact
    have scaled := Nat.mul_le_mul_left d (Nat.le_trans (Nat.add_le_add_right grid _) step)
    rw [Nat.mul_add] at scaled
    exact .inr (by omega)
  · exact .inl reached

theorem nearestClosest : |(n : Rat) / d - nearest n d| ≤ |(n : Rat) / d - u| := by
  have size : (0 : Rat) < d := Nat.cast_pos.mpr positive
  have scale (m : Nat) : d * |(n : Rat) / d - m| = |(n : Rat) - d * m| := by
    rw [← abs_of_pos size, ← abs_mul, abs_of_pos size, mul_sub, mul_div_cancel₀ _ (ne_of_gt size)]
  refine le_of_mul_le_mul_left ?_ size
  rw [scale, scale]
  rcases Nat.le_total n (d * u) with bound | bound
  · have most : (d : Rat) * nearest n d ≤ d * u :=
      mul_le_mul_of_nonneg_left (Nat.cast_le.mpr (nearestAtMost positive bound exact)) (le_of_lt size)
    have side : (n : Rat) ≤ d * nearest n d ∨ 2 * (n : Rat) ≤ d * nearest n d + d * u := by
      exact_mod_cast closestAbove positive exact bound
    have bound : (n : Rat) ≤ d * u := by exact_mod_cast bound
    rw [abs_of_nonpos (sub_nonpos.mpr bound), abs_le]
    rcases side with reached | halved <;> constructor <;> linarith
  · have least : (d : Rat) * u ≤ d * nearest n d :=
      mul_le_mul_of_nonneg_left (Nat.cast_le.mpr (nearestAtLeast positive bound exact)) (le_of_lt size)
    have side : (d : Rat) * nearest n d ≤ n ∨ (d : Rat) * nearest n d + d * u ≤ 2 * n := by
      exact_mod_cast closestBelow positive exact bound
    have bound : (d : Rat) * u ≤ n := by exact_mod_cast bound
    rw [abs_of_nonneg (sub_nonneg.mpr bound), abs_le]
    rcases side with reached | halved <;> constructor <;> linarith

end

theorem neighboursApart {u v : Nat} (first : Representable u) (second : Representable v) (less : u < v) :
    u < 1 <<< significantBits * (v - u) := by
  have step := gridStep first (Nat.dvd_trans (spacingDivides (Nat.le_of_lt less)) second) less
  calc u < spacing u * 1 <<< significantBits := belowNextPower u
    _ ≤ (v - u) * 1 <<< significantBits := Nat.mul_le_mul_right _ (by omega)
    _ = 1 <<< significantBits * (v - u) := Nat.mul_comm ..

/-- Sixteen digits tell a representable magnitude from its neighbours. -/
theorem neighboursSame {u v : Nat} (first : Representable u) (second : Representable v)
    (close : 10 ^ 16 * |(u : Rat) - v| ≤ u) : v = u := by
  rcases Nat.lt_trichotomy u v with less | same | more
  · have apart : u < 2 ^ 53 * (v - u) := neighboursApart first second less
    rw [abs_of_neg (sub_neg.mpr (Nat.cast_lt.mpr less)), neg_sub, ← Nat.cast_sub (Nat.le_of_lt less)] at close
    have close : 10 ^ 16 * (v - u) ≤ u := by exact_mod_cast close
    omega
  · exact same.symm
  · have apart : v < 2 ^ 53 * (u - v) := neighboursApart second first more
    rw [abs_of_pos (sub_pos.mpr (Nat.cast_lt.mpr more)), ← Nat.cast_sub (Nat.le_of_lt more)] at close
    have close : 10 ^ 16 * (u - v) ≤ u := by exact_mod_cast close
    omega

theorem closeRounded {n d u : Nat} (positive : 0 < d) (exact : Representable u)
    (close : 2 * 10 ^ 16 * |(n : Rat) / d - u| ≤ u) : nearest n d = u := by
  refine neighboursSame exact (nearestRepresentable positive) (le_trans ?_ close)
  have near := nearestClosest positive exact (n := n)
  have sides := abs_sub_le (u : Rat) ((n : Rat) / d) (nearest n d)
  rw [abs_sub_comm (u : Rat) ((n : Rat) / d)] at sides
  linarith

end TypoSearch.Number.Binary64
