import TypoSearch.Proofs.Number.Order

/-! Whole numbers up to two to the power of the significant bits. They are doubles themselves, so sums, products
and differences among them are exact, and only a quotient is rounded. -/
namespace TypoSearch.Number.Binary64

def Whole (n : Nat) : Prop := n ≤ 1 <<< significantBits
instance (n : Nat) : Decidable (Whole n) := by unfold Whole; infer_instance

def ofWhole (negative : Bool) (n : Nat) : Binary64 := finite negative (n * unit)

theorem wholeRepresentable {n : Nat} (whole : Whole n) : Representable (n * unit) := by
  unfold unit
  generalize 1074 = e
  have scaled := scaledRepresentable whole e
  rwa [Nat.shiftLeft_eq, ← Nat.one_shiftLeft] at scaled

theorem wholeBelowLimit {n : Nat} (whole : Whole n) : n * unit < limit := by
  have powers : (1 <<< significantBits) * unit < limit := by decide +kernel
  exact Nat.lt_of_le_of_lt (Nat.mul_le_mul_right unit whole) powers

theorem ofUnitsWhole (negative : Bool) {u n d : Nat} (whole : Whole n) (positive : 0 < d)
    (same : u = d * (n * unit)) : ofUnits negative u d = ofWhole negative n := by
  unfold ofUnits
  dsimp only
  rw [same, nearestExact positive (wholeRepresentable whole), if_pos (wholeBelowLimit whole)]
  rfl

theorem ofNatWhole {n : Nat} (whole : Whole n) : ofNat n = ofWhole false n :=
  ofUnitsWhole false whole Nat.one_pos (Nat.one_mul _).symm

theorem ofIntWhole {n : Nat} (whole : Whole n) : ofInt? n = some (ofWhole false n) := by
  have number : ofRatio false n 1 = ofWhole false n := ofNatWhole whole
  have sign : decide ((n : Int) < 0) = false := decide_eq_false (Int.not_lt.mpr (Int.natCast_nonneg n))
  rw [ofInt?, sign, Int.natAbs_natCast, number]
  rfl

theorem sumWhole {n m : Nat} (whole : Whole (n + m)) :
    add (ofWhole false n) (ofWhole false m) = ofWhole false (n + m) := by
  rw [ofWhole, ofWhole, add, if_pos rfl]
  exact ofUnitsWhole false whole Nat.one_pos (by rw [Nat.one_mul, Nat.add_mul])

theorem productWhole {n m : Nat} (whole : Whole (n * m)) :
    mul (ofWhole false n) (ofWhole false m) = ofWhole false (n * m) := by
  rw [ofWhole, ofWhole, mul]
  exact ofUnitsWhole false whole unitPositive (by ac_rfl)

theorem differenceWhole {n m : Nat} (first : Whole n) (second : Whole m) :
    add (ofWhole false n) (neg (ofWhole false m)) =
      if m ≤ n then ofWhole false (n - m) else ofWhole true (m - n) := by
  rw [ofWhole, ofWhole, neg, add, if_neg (by decide)]
  rcases Nat.lt_trichotomy m n with less | same | more
  · have order : m * unit < n * unit := Nat.mul_lt_mul_of_pos_right less unitPositive
    have whole : Whole (n - m) := Nat.le_trans (Nat.sub_le n m) first
    rw [if_pos order, if_pos (Nat.le_of_lt less)]
    exact ofUnitsWhole false whole Nat.one_pos (by rw [Nat.one_mul, Nat.sub_mul])
  · rw [same, if_neg (Nat.lt_irrefl _), if_neg (Nat.lt_irrefl _), if_pos (Nat.le_refl _), Nat.sub_self, ofWhole,
      Nat.zero_mul]
    rfl
  · have order : n * unit < m * unit := Nat.mul_lt_mul_of_pos_right more unitPositive
    have whole : Whole (m - n) := Nat.le_trans (Nat.sub_le m n) second
    rw [if_neg (Nat.lt_asymm order), if_pos order, if_neg (Nat.not_le.mpr more)]
    exact ofUnitsWhole true whole Nat.one_pos (by rw [Nat.one_mul, Nat.sub_mul])

theorem quotientWhole {n d : Nat} (positive : 0 < d) (le : n ≤ d) :
    div (ofWhole false n) (ofWhole false d) = finite false (nearest (n * unit) d) := by
  have scaled : 0 < d * unit := Nat.mul_pos positive unitPositive
  have units : nearest (n * unit * unit) (d * unit) = nearest (n * unit) d :=
    nearestSame scaled positive (by ac_rfl)
  have most : nearest (n * unit) d ≤ unit :=
    nearestAtMost positive (Nat.mul_le_mul_right unit le) unitRepresentable
  rw [ofWhole, ofWhole, div, if_neg (Nat.ne_of_gt scaled)]
  unfold ofUnits
  dsimp only
  rw [units, if_pos (Nat.lt_of_le_of_lt most unitBelowLimit)]
  rfl

end TypoSearch.Number.Binary64
