import Mathlib.Algebra.Order.Field.Power
import Mathlib.Tactic.FieldSimp
import Mathlib.Tactic.Ring
import TypoSearch.Number.Shortest
import TypoSearch.Proofs.Number.Closest

/-! The shortest decimal of a representable magnitude is rounded to that magnitude. The search looks at the two
decimals around it on one grid after another, and on the grid of seventeen digits the nearer one is close enough. -/
namespace TypoSearch.Number.Decimal
open Binary64

def value (d : Decimal) : Rat := d.coefficient * 10 ^ d.exponent

theorem tenPositive (e : Int) : (0 : Rat) < 10 ^ e := zpow_pos (by norm_num) e

theorem tenNatural {e : Int} (sign : 0 ≤ e) : (10 : Rat) ^ e = (Nat.pow 10 e.toNat : Nat) := by
  obtain ⟨n, rfl⟩ := Int.eq_ofNat_of_zero_le sign
  simp

theorem tenReciprocal {e : Int} (sign : ¬0 ≤ e) : (10 : Rat) ^ e = ((Nat.pow 10 (-e).toNat : Nat) : Rat)⁻¹ := by
  rw [← tenNatural (by omega : 0 ≤ -e), zpow_neg, inv_inv]

theorem ratioPositive (d : Decimal) : 0 < d.ratio.2 := by
  unfold ratio
  split
  · exact Nat.one_pos
  · exact Nat.pow_pos (by decide)

theorem ratioValue (d : Decimal) : (d.ratio.1 : Rat) / d.ratio.2 = d.value * unit := by
  unfold ratio value
  split
  · rename_i sign
    rw [tenNatural sign]
    push_cast
    exact div_one _
  · rename_i sign
    rw [tenReciprocal sign]
    push_cast
    ring

theorem readsAsValue {u : Nat} {c d : Decimal} (same : c.value = d.value) : c.readsAs u = d.readsAs u := by
  have ratios : (c.ratio.1 : Rat) / c.ratio.2 = (d.ratio.1 : Rat) / d.ratio.2 := by rw [ratioValue, ratioValue, same]
  rw [div_eq_div_iff (Nat.cast_ne_zero.mpr (ratioPositive c).ne') (Nat.cast_ne_zero.mpr (ratioPositive d).ne')]
    at ratios
  have crossed : c.ratio.1 * d.ratio.2 = d.ratio.1 * c.ratio.2 := by exact_mod_cast ratios
  rw [readsAs, readsAs, nearestSame (ratioPositive c) (ratioPositive d) crossed]

theorem closeReads {u : Nat} (exact : Representable u) {d : Decimal}
    (close : 2 * 10 ^ 16 * |d.value * unit - u| ≤ u) : d.readsAs u = true := by
  rw [readsAs, beq_iff_eq]
  refine closeRounded (ratioPositive d) exact ?_
  rwa [ratioValue]

/-! ## The grid of seventeen digits -/

theorem lengthReached {m : Nat} (positive : 0 < m) : Nat.pow 10 ((Nat.toDigits 10 m).length - 1) ≤ m := by
  rcases Nat.eq_zero_or_pos ((Nat.toDigits 10 m).length - 1) with none | more
  · rw [none]
    exact positive
  · refine Nat.le_of_not_lt fun below => ?_
    have short := (Nat.length_toDigits_le_iff (by decide) more).mpr below
    omega

theorem unitWide : unit ≤ Nat.pow 10 scale := by decide +kernel

theorem leadingReached {u : Nat} (positive : 0 < u) : (10 : Rat) ^ leading u * unit ≤ u := by
  have some : 0 < u * Nat.pow 10 scale / unit :=
    Nat.div_pos (Nat.le_trans unitWide (Nat.le_mul_of_pos_left _ positive)) unitPositive
  have least := (Nat.le_div_iff_mul_le unitPositive).mp (lengthReached some)
  have digits := Nat.length_toDigits_pos (b := 10) (n := u * Nat.pow 10 scale / unit)
  have places : leading u + scale = ((Nat.toDigits 10 (u * Nat.pow 10 scale / unit)).length - 1 : Nat) := by
    rw [leading, Int.sub_add_cancel, Nat.cast_sub digits, Nat.cast_one]
  have scaled : (10 : Rat) ^ (leading u + scale) * unit ≤ u * 10 ^ (scale : Int) := by
    rw [places, zpow_natCast, zpow_natCast]
    simpa only [Nat.pow_eq, Nat.cast_mul, Nat.cast_pow, Nat.cast_ofNat] using (Nat.cast_le (α := Rat)).mpr least
  rw [zpow_add₀ (by norm_num), mul_right_comm] at scaled
  exact le_of_mul_le_mul_right scaled (tenPositive scale)

theorem halfEvenClose (n : Nat) {d : Nat} (positive : 0 < d) : 2 * |(divHalfEven n d : Rat) - n / d| ≤ 1 := by
  have size : (0 : Rat) < d := Nat.cast_pos.mpr positive
  have parts : (n : Rat) / d = (n / d : Nat) + (n % d : Nat) / d := by
    rw [eq_comm, ← mul_right_inj' size.ne', mul_add, mul_div_cancel₀ _ size.ne', mul_div_cancel₀ _ size.ne']
    exact_mod_cast Nat.div_add_mod n d
  have below : ((n % d : Nat) : Rat) / d ≤ 1 := (div_le_one size).mpr (Nat.cast_le.mpr (Nat.mod_lt n positive).le)
  have sign : 0 ≤ ((n % d : Nat) : Rat) / d := div_nonneg (Nat.cast_nonneg _) size.le
  rcases Nat.lt_or_eq_of_le (divHalfEvenAtMostNext n d) with low | up
  · have down := Nat.le_antisymm (Nat.le_of_lt_succ low) (divHalfEvenAtLeast n d)
    have half : 2 * (((n % d : Nat) : Rat) / d) ≤ 1 := by
      rw [← mul_div_assoc, div_le_one size]
      exact_mod_cast halfEvenDown down
    rw [down, parts, sub_add_cancel_left, abs_neg, abs_of_nonneg sign]
    exact half
  · have half : 1 ≤ 2 * (((n % d : Nat) : Rat) / d) := by
      rw [← mul_div_assoc, one_le_div size]
      exact_mod_cast halfEvenUp up
    rw [up, parts, Nat.cast_succ, add_sub_add_left_eq_sub, abs_of_nonneg (sub_nonneg.mpr below)]
    linarith

theorem inTensPositive (u : Nat) (e : Int) : 0 < (inTens u e).2 := by
  unfold inTens
  split
  · exact Nat.mul_pos unitPositive (Nat.pow_pos (by decide))
  · exact unitPositive

theorem inTensValue (u : Nat) (e : Int) : ((inTens u e).1 : Rat) / (inTens u e).2 * (10 ^ e * unit) = u := by
  have grid : (unit : Rat) ≠ 0 := unitNonzero
  have ten := (tenPositive e).ne'
  unfold inTens
  split
  · rename_i sign
    rw [tenNatural sign] at ten ⊢
    push_cast at ten ⊢
    field_simp
  · rename_i sign
    rw [tenReciprocal sign] at ten ⊢
    push_cast at ten ⊢
    field_simp

theorem gridClose (u : Nat) (e : Int) :
    2 * |(⟨divHalfEven (inTens u e).1 (inTens u e).2, e⟩ : Decimal).value * unit - u| ≤ 10 ^ e * unit := by
  have step : 0 ≤ (10 : Rat) ^ e * unit := mul_nonneg (tenPositive e).le (Nat.cast_nonneg unit)
  have half := halfEvenClose (inTens u e).1 (inTensPositive u e)
  nth_rewrite 1 [← inTensValue u e]
  rw [value, mul_assoc, ← sub_mul, abs_mul, abs_of_nonneg step, ← mul_assoc]
  exact mul_le_of_le_one_left step half

theorem nearerReads {u : Nat} (positive : 0 < u) (exact : Representable u) :
    (⟨divHalfEven (inTens u (leading u + 1 - enoughDigits)).1 (inTens u (leading u + 1 - enoughDigits)).2,
      leading u + 1 - enoughDigits⟩ : Decimal).readsAs u = true := by
  refine closeReads exact ?_
  have close := gridClose u (leading u + 1 - enoughDigits)
  have first : (10 : Rat) ^ (leading u) = 10 ^ 16 * 10 ^ (leading u + 1 - enoughDigits) := by
    have places : leading u = 16 + (leading u + 1 - enoughDigits) := by
      simp only [enoughDigits]
      omega
    nth_rewrite 1 [places]
    rw [zpow_add₀ (by norm_num)]
    norm_cast
  have reached := leadingReached positive
  rw [first] at reached
  linarith

/-! ## The search -/

section
variable {u : Nat} {low high nearer d : Decimal} (one : nearer = low ∨ nearer = high)
include one

theorem readingReads (found : reading? u low high nearer = some d) : d.readsAs u = true := by
  unfold reading? at found
  split at found
  · rename_i lowReads
    cases found
    split
    · rename_i highReads
      rcases one with rfl | rfl
      · exact lowReads
      · exact highReads
    · exact lowReads
  · split at found
    · rename_i highReads
      cases found
      exact highReads
    · cases found

theorem readingFound (reads : nearer.readsAs u = true) : reading? u low high nearer ≠ none := by
  unfold reading?
  rcases one with rfl | rfl
  · rw [if_pos reads]
    exact Option.some_ne_none _
  · rw [if_pos reads]
    split <;> exact Option.some_ne_none _

end

theorem halfEvenNeighbour (n d : Nat) (e : Int) :
    (⟨divHalfEven n d, e⟩ : Decimal) = ⟨n / d, e⟩ ∨ (⟨divHalfEven n d, e⟩ : Decimal) = ⟨n / d + 1, e⟩ := by
  have least := divHalfEvenAtLeast n d
  rcases Nat.lt_or_eq_of_le (divHalfEvenAtMostNext n d) with low | up
  · exact .inl (by rw [Nat.le_antisymm (Nat.le_of_lt_succ low) least])
  · exact .inr (by rw [up])

theorem withDigitsReads {u count : Nat} {d : Decimal} (found : withDigits? u count = some d) :
    d.readsAs u = true :=
  readingReads (halfEvenNeighbour _ _ _) found

theorem enoughFound {u : Nat} (positive : 0 < u) (exact : Representable u) : withDigits? u enoughDigits ≠ none :=
  readingFound (halfEvenNeighbour _ _ _) (nearerReads positive exact)

theorem dropZerosValue (fuel : Nat) (d : Decimal) : (dropZeros fuel d).value = d.value := by
  induction fuel generalizing d with
  | zero => rfl
  | succ fuel ih =>
    rw [dropZeros]
    split
    · rename_i last
      rw [ih, value, value, zpow_add₀ (by norm_num), zpow_one]
      have parts : (d.coefficient : Rat) = 10 * (d.coefficient / 10 : Nat) := by
        exact_mod_cast (Nat.mul_div_cancel' (Nat.dvd_of_mod_eq_zero last)).symm
      rw [parts]
      ring
    · rfl

theorem shortestReads {u : Nat} (positive : 0 < u) (exact : Representable u) : (shortest u).readsAs u = true := by
  have found : search? u ≠ none := by
    intro none
    unfold search? at none
    rw [List.findSome?_eq_none_iff] at none
    exact enoughFound positive exact (none enoughDigits (by decide))
  obtain ⟨d, here⟩ := Option.ne_none_iff_exists'.mp found
  have reads : d.readsAs u = true := by
    unfold search? at here
    obtain ⟨count, _, same⟩ := List.exists_of_findSome?_eq_some here
    exact withDigitsReads same
  rw [shortest, here, settled, readsAsValue (dropZerosValue enoughDigits d), reads]

end TypoSearch.Number.Decimal
