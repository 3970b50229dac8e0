import TypoSearch.Proofs.Number.Rounding

/-! Which whole numbers convert to a double. Rounding takes a magnitude out of the range from the middle between
the greatest double and the first power of two beyond it: that middle is a tie, and a tie goes to the even
neighbour, which is the power. -/
namespace TypoSearch.Number.Binary64

theorem divHalfEvenBelow (n : Nat) {d : Nat} (positive : 0 < d) (k : Nat) :
    divHalfEven n d < 2 * k ↔ 2 * n + d < 2 * (d * (2 * k)) := by
  have parts := Nat.div_add_mod n d
  have small := Nat.mod_lt n positive
  rcases Nat.lt_trichotomy (n / d + 1) (2 * k) with below | middle | above
  · have room := Nat.mul_le_mul_left d (show n / d + 2 ≤ 2 * k by omega)
    rw [Nat.mul_add] at room
    have most := divHalfEvenAtMostNext n d
    exact iff_of_true (by omega) (by omega)
  · -- The quotient is odd, so a remainder of one half is rounded up.
    have room : d * (2 * k) = d * (n / d) + d := by rw [← middle, Nat.mul_succ]
    unfold divHalfEven
    dsimp only
    split
    · exact iff_of_true (by omega) (by omega)
    · split
      · exact iff_of_false (by omega) (by omega)
      · exact iff_of_false (by omega) (by omega)
  · have room := Nat.mul_le_mul_left d (show 2 * k ≤ n / d by omega)
    have least := divHalfEvenAtLeast n d
    exact iff_of_false (by omega) (by omega)

theorem spacingWithin {m e : Nat} (least : 2 ^ (e + significantBits) ≤ m)
    (most : m < 2 ^ (e + significantBits + 1)) : spacing m = 2 ^ (e + 1) := by
  have nonzero : m ≠ 0 := by
    have := Nat.two_pow_pos (e + significantBits)
    omega
  have log : m.log2 = e + significantBits := (Nat.log2_eq_iff nonzero).mpr ⟨least, most⟩
  rw [spacing, Nat.one_shiftLeft, log, Nat.add_right_comm, Nat.add_sub_cancel]

theorem powerSteps (e b : Nat) : 2 ^ (e + (b + 1) + 1) = 2 * 2 ^ b * 2 ^ (e + 1) := by
  rw [Nat.add_right_comm, Nat.add_comm, Nat.pow_add, Nat.pow_succ, Nat.mul_comm (2 ^ b)]

theorem nearestBelow (m e : Nat) :
    nearest m 1 < 2 ^ (e + significantBits + 1) ↔ m + 2 ^ e < 2 ^ (e + significantBits + 1) := by
  have double : 2 ^ (e + significantBits + 1) = 2 * 2 ^ (e + significantBits) := by rw [Nat.pow_succ, Nat.mul_comm]
  have half : 2 ^ e ≤ 2 ^ (e + significantBits) := Nat.pow_le_pow_right (by decide) (by omega)
  have positive := Nat.two_pow_pos e
  -- Outside the last power of two rounding stays on its side of a power; inside, the spacing is known.
  rcases Nat.lt_or_ge m (2 ^ (e + significantBits)) with low | least
  · have bound := nearestAtMost Nat.one_pos (n := m) (by omega) (twoPowRepresentable (e + significantBits))
    exact iff_of_true (by omega) (by omega)
  rcases Nat.lt_or_ge m (2 ^ (e + significantBits + 1)) with most | high
  · have whole : 2 ^ (e + significantBits + 1) = 2 * 2 ^ 52 * 2 ^ (e + 1) := powerSteps e 52
    have steps := divHalfEvenBelow m (Nat.two_pow_pos (e + 1)) (2 ^ 52)
    rw [Nat.mul_comm (2 ^ (e + 1)), ← whole] at steps
    have rounded : nearest m 1 = divHalfEven m (2 ^ (e + 1)) * 2 ^ (e + 1) := by
      rw [nearest, Nat.div_one, spacingWithin least most, Nat.one_mul]
    have scaled : nearest m 1 < 2 ^ (e + significantBits + 1) ↔ divHalfEven m (2 ^ (e + 1)) < 2 * 2 ^ 52 := by
      rw [rounded, whole]
      exact Nat.mul_lt_mul_right (Nat.two_pow_pos (e + 1))
    have twice : 2 ^ (e + 1) = 2 * 2 ^ e := Nat.pow_succ'
    rw [scaled, steps, twice]
    omega
  · have bound := nearestAtLeast Nat.one_pos (n := m) (by omega) (twoPowRepresentable (e + significantBits + 1))
    exact iff_of_false (by omega) (by omega)

theorem scaledBelow (n b c : Nat) : nearest (n * 2 ^ c) 1 < 2 ^ (b + c + significantBits + 1) ↔
    n + 2 ^ b < 2 ^ (b + significantBits + 1) := by
  have middle : n * 2 ^ c + 2 ^ (b + c) = (n + 2 ^ b) * 2 ^ c := by rw [Nat.add_mul, Nat.pow_add]
  have beyond : 2 ^ (b + c + significantBits + 1) = 2 ^ (b + significantBits + 1) * 2 ^ c := by
    rw [← Nat.pow_add]
    congr 1
    omega
  rw [nearestBelow, middle, beyond]
  exact Nat.mul_lt_mul_right (Nat.two_pow_pos c)

@[irreducible] def firstBeyond : Nat := (1 <<< 1024) - (1 <<< 970)

theorem ofIntWithin (n : Nat) : (ofInt? n).isSome = true ↔ n < firstBeyond := by
  have units : (ofInt? n).isSome = true ↔ nearest (n * unit) 1 < limit := by
    rw [ofInt?, ofRatio, ofUnits, Int.natAbs_natCast]
    split
    · rename_i inRange
      exact iff_of_true rfl inRange
    · rename_i beyond
      exact iff_of_false Bool.false_ne_true beyond
  have range := scaledBelow n 970 1074
  have sums : 970 + 1074 + significantBits + 1 = 2098 ∧ 970 + significantBits + 1 = 1024 := ⟨rfl, rfl⟩
  simp only [sums, ← Nat.one_shiftLeft] at range
  rw [units, unit, limit, range, firstBeyond, Nat.lt_sub_iff_add_lt]

end TypoSearch.Number.Binary64
