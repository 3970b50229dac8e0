import Mathlib.Algebra.Group.Nat.Defs
import TypoSearch.Number.Binary64

/-! Rounding to the nearest double never passes a magnitude that is itself representable. So the bounds
of an exact result that are representable are bounds of the rounded one. -/
namespace TypoSearch.Number.Binary64

theorem plusEq (x y : Binary64) : x + y = add x y := rfl

theorem minusEq (x y : Binary64) : x - y = add x (neg y) := rfl

theorem timesEq (x y : Binary64) : x * y = mul x y := rfl

theorem overEq (x y : Binary64) : x / y = div x y := rfl

theorem divHalfEvenAtLeast (n d : Nat) : n / d ≤ divHalfEven n d := by
  unfold divHalfEven
  dsimp only
  split
  · exact Nat.le_refl _
  · split <;> omega

theorem divHalfEvenAtMostNext (n d : Nat) : divHalfEven n d ≤ n / d + 1 := by
  unfold divHalfEven
  dsimp only
  split
  · exact Nat.le_succ _
  · split <;> omega

theorem divHalfEvenAtMost {n d j : Nat} (positive : 0 < d) (bound : n ≤ d * j) : divHalfEven n d ≤ j := by
  have parts := Nat.div_add_mod n d
  rcases Nat.lt_or_ge (n / d) j with below | above
  · exact Nat.le_trans (divHalfEvenAtMostNext n d) below
  · have same : n / d = j := Nat.le_antisymm (Nat.div_le_of_le_mul bound) above
    have exact : n % d = 0 := by rw [same] at parts; omega
    simp [divHalfEven, exact, same, positive]

theorem powerPositive (e : Nat) : 0 < 1 <<< e := by
  rw [Nat.one_shiftLeft]
  exact Nat.two_pow_pos e

theorem powerDivides {a b : Nat} (le : a ≤ b) : 1 <<< a ∣ 1 <<< b := by
  rw [Nat.one_shiftLeft, Nat.one_shiftLeft]
  exact Nat.pow_dvd_pow 2 le

theorem spacingPositive (n : Nat) : 0 < spacing n := powerPositive _

theorem logRises {m n : Nat} (le : m ≤ n) : m.log2 ≤ n.log2 := by
  rcases Nat.eq_zero_or_pos m with rfl | positive
  · simp
  · exact (Nat.le_log2 (by omega)).mpr (Nat.le_trans (Nat.log2_self_le (by omega)) le)

theorem spacingDivides {m n : Nat} (le : m ≤ n) : spacing m ∣ spacing n := by
  apply powerDivides
  have logs := logRises le
  omega

def Representable (u : Nat) : Prop := spacing u ∣ u

theorem scaledRepresentable {c : Nat} (bound : c ≤ 1 <<< significantBits) (e : Nat) :
    Representable (c <<< e) := by
  unfold Representable spacing
  rw [Nat.one_shiftLeft] at bound ⊢
  rw [Nat.shiftLeft_eq]
  rcases Nat.eq_zero_or_pos c with rfl | positive
  · simp
  · rcases Nat.lt_or_eq_of_le bound with below | same
    · have nonzero : c * 2 ^ e ≠ 0 := Nat.mul_ne_zero (by omega) (by have := Nat.two_pow_pos e; omega)
      have size : c * 2 ^ e < 2 ^ (significantBits + e) := by
        rw [Nat.pow_add]
        exact Nat.mul_lt_mul_of_pos_right below (Nat.two_pow_pos e)
      have log : (c * 2 ^ e).log2 < significantBits + e := (Nat.log2_lt nonzero).mpr size
      exact Nat.dvd_trans (Nat.pow_dvd_pow 2 (by omega)) (Nat.dvd_mul_left _ _)
    · rw [same, ← Nat.pow_add, Nat.log2_two_pow]
      exact Nat.pow_dvd_pow 2 (by simp only [significantBits]; omega)

theorem nearestAtMost {n d u : Nat} (positive : 0 < d) (bound : n ≤ d * u) (exact : Representable u) :
    nearest n d ≤ u := by
  have quotient : n / d ≤ u := Nat.div_le_of_le_mul bound
  obtain ⟨j, hj⟩ := Nat.dvd_trans (spacingDivides quotient) exact
  have units : divHalfEven n (d * spacing (n / d)) ≤ j := by
    apply divHalfEvenAtMost (Nat.mul_pos positive (spacingPositive _))
    rw [Nat.mul_assoc, ← hj]
    exact bound
  calc nearest n d ≤ j * spacing (n / d) := Nat.mul_le_mul_right _ units
    _ = u := by rw [Nat.mul_comm, ← hj]

theorem gridPassed {s u m : Nat} (positive : 0 < s) (point : s ∣ u) (bound : u ≤ m) : u ≤ m / s * s := by
  obtain ⟨j, rfl⟩ := point
  have units : j ≤ m / s := by
    rw [Nat.le_div_iff_mul_le positive, Nat.mul_comm]
    exact bound
  rw [Nat.mul_comm]
  exact Nat.mul_le_mul_right s units

/-- Below the highest power of two the grid has all representable magnitudes of its own binade, and that
power is one of its points. -/
theorem gridReached {n d u : Nat} (positive : 0 < d) (bound : d * u ≤ n) (exact : Representable u) :
    u ≤ n / d / spacing (n / d) * spacing (n / d) := by
  have quotient : u ≤ n / d := (Nat.le_div_iff_mul_le positive).mpr (by rwa [Nat.mul_comm])
  rcases Nat.eq_zero_or_pos u with rfl | nonzero
  · exact Nat.zero_le _
  -- The grid may miss a point of a lower binade, but not the power of two between it and the quotient.
  rcases Nat.lt_or_eq_of_le (logRises quotient) with below | same
  · have power : 2 ^ (n / d).log2 ≤ n / d := Nat.log2_self_le (by omega)
    have small : u < 2 ^ (n / d).log2 := (Nat.log2_lt (by omega)).mp below
    have point : spacing (n / d) ∣ 2 ^ (n / d).log2 := by
      rw [← Nat.one_shiftLeft]
      exact powerDivides (by simp only [significantBits]; omega)
    exact Nat.le_trans (Nat.le_of_lt small) (gridPassed (spacingPositive _) point power)
  · have point : spacing (n / d) ∣ u := by simpa only [Representable, spacing, same] using exact
    exact gridPassed (spacingPositive _) point quotient

theorem nearestAtLeast {n d u : Nat} (positive : 0 < d) (bound : d * u ≤ n) (exact : Representable u) :
    u ≤ nearest n d := by
  refine Nat.le_trans (gridReached positive bound exact) (Nat.mul_le_mul_right _ ?_)
  rw [Nat.div_div_eq_div_mul]
  exact divHalfEvenAtLeast n _

theorem belowNextPower (n : Nat) : n < spacing n * 1 <<< significantBits := by
  have wide : 2 ^ (n.log2 + 1) ≤ spacing n * 1 <<< significantBits := by
    rw [spacing, Nat.one_shiftLeft, Nat.one_shiftLeft, ← Nat.pow_add]
    exact Nat.pow_le_pow_right (by decide) (by omega)
  exact Nat.lt_of_lt_of_le Nat.lt_log2_self wide

theorem nearestRepresentable {n d : Nat} (positive : 0 < d) : Representable (nearest n d) := by
  have quotient : n < d * (n / d + 1) := Nat.lt_mul_div_succ n positive
  have bound : n ≤ d * spacing (n / d) * 1 <<< significantBits :=
    calc n ≤ d * (n / d + 1) := Nat.le_of_lt quotient
      _ ≤ d * (spacing (n / d) * 1 <<< significantBits) := Nat.mul_le_mul_left _ (belowNextPower (n / d))
      _ = d * spacing (n / d) * 1 <<< significantBits := (Nat.mul_assoc ..).symm
  have scaled := scaledRepresentable (divHalfEvenAtMost (Nat.mul_pos positive (spacingPositive _)) bound)
    ((n / d).log2 + 1 - significantBits)
  rwa [Nat.shiftLeft_eq, ← Nat.one_shiftLeft] at scaled

theorem powerRepresentable (e : Nat) : Representable (1 <<< e) := scaledRepresentable (by decide) e

theorem twoPowRepresentable (e : Nat) : Representable (2 ^ e) := by
  rw [← Nat.one_shiftLeft]
  exact powerRepresentable e

theorem unitRepresentable : Representable unit := by
  unfold unit
  generalize 1074 = e
  exact powerRepresentable e

theorem unitPositive : 0 < unit := by
  unfold unit
  generalize 1074 = e
  exact powerPositive e

theorem unitBelowLimit : unit < limit := by
  unfold unit limit
  have exponents : 1074 < 2098 := by decide
  generalize 1074 = a at exponents ⊢
  generalize 2098 = b at exponents ⊢
  rw [Nat.one_shiftLeft, Nat.one_shiftLeft]
  exact Nat.pow_lt_pow_right (by decide) exponents

theorem ofUnitsAtMost {n d u : Nat} (positive : 0 < d) (bound : n ≤ d * u) (exact : Representable u)
    (inRange : u < limit) (negative : Bool) :
    ∃ r ≤ u, ofUnits negative n d = finite negative r := by
  have le := nearestAtMost positive bound exact
  refine ⟨nearest n d, le, ?_⟩
  simp [ofUnits, Nat.lt_of_le_of_lt le inRange]

theorem ofUnitsCases (negative : Bool) (n : Nat) {d : Nat} (positive : 0 < d) :
    (∃ r < limit, Representable r ∧ ofUnits negative n d = finite negative r) ∨
      ofUnits negative n d = infinite negative := by
  unfold ofUnits
  dsimp only
  split
  · rename_i inRange
    exact .inl ⟨_, inRange, nearestRepresentable positive, rfl⟩
  · exact .inr rfl

theorem ofRatioCases (negative : Bool) (n : Nat) {d : Nat} (positive : 0 < d) :
    (∃ r < limit, Representable r ∧ ofRatio negative n d = finite negative r) ∨
      ofRatio negative n d = infinite negative := ofUnitsCases negative (n * unit) positive

theorem ofIntCases {i : Int} {x : Binary64} (converted : ofInt? i = some x) :
    ∃ r < limit, Representable r ∧ x = finite (i < 0) r := by
  rw [ofInt?] at converted
  rcases ofRatioCases (decide (i < 0)) i.natAbs Nat.one_pos with ⟨r, inRange, exact, same⟩ | same
  · rw [same] at converted
    exact ⟨r, inRange, exact, (Option.some.inj converted).symm⟩
  · rw [same] at converted
    cases converted

end TypoSearch.Number.Binary64
