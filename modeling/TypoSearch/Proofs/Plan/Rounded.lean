import TypoSearch.Proofs.Number.Whole
import TypoSearch.Proofs.Plan.Cutoff
import TypoSearch.Proofs.Plan.Surviving

/-! The cutoff of each length and budget as a number: in exact numbers, in exact numbers with a rounded quotient,
and in doubles, which are of that kind as long as nothing but the quotient has to be rounded. -/
namespace TypoSearch
open Number (Binary64 Rounding)

structure Rounded (round : Rat → Rat) where
  value : Rat

instance (round : Rat → Rat) : Scale (Rounded round) where
  ofNat n := .ok ⟨n⟩
  zero := ⟨0⟩
  one := ⟨1⟩
  survivors n k := ⟨max 0 (round ((n.value + 2 - 3 * k.value) / (n.value + 2)))⟩
  keeping lost total := ⟨Scale.keeping lost total⟩
  percent lost total := ⟨Scale.percent lost total⟩
  atLeast x y := Scale.atLeast x.value y.value

namespace Cutoff

def closedForm (round : Rat → Rat) (length typos : Nat) : Rat :=
  if length < trigramLength then (if 1 ≤ typos then 0 else 1) else max 0 (round (surviving length typos))

section
variable (round : Rat → Rat) {length typos : Nat}

theorem closedShort (short : length < trigramLength) (some : 0 < typos) : closedForm round length typos = 0 :=
  (if_pos short).trans (if_pos some)

theorem closedLong (long : trigramLength ≤ length) :
    closedForm round length typos = max 0 (round (surviving length typos)) := if_neg (Nat.not_lt.mpr long)

end

theorem closedNone {round : Rat → Rat} (rounding : Rounding round) {length typos : Nat}
    (long : trigramLength ≤ length) (spent : length + 2 ≤ 3 * typos) : closedForm round length typos = 0 := by
  rw [closedLong round long]
  refine max_eq_left ?_
  rw [← rounding.zero]
  exact rounding.monotone (survivingNone.mpr spent)

structure Rounds (ν : Type) [Scale ν] (round : Rat → Rat) (value : ν → Rat) : Prop where
  ofNat (n : Nat) : ∃ x : ν, Scale.ofNat n = .ok x ∧ value x = n
  zero : value Scale.zero = 0
  one : value Scale.one = 1
  survivors (n k : ν) :
    value (Scale.survivors n k) = max 0 (round ((value n + 2 - 3 * value k) / (value n + 2)))
  atLeast (x y : ν) : Scale.atLeast x y = true ↔ value y ≤ value x

theorem exactRounds : Rounds Rat id id where
  ofNat n := ⟨n, rfl, rfl⟩
  zero := rfl
  one := rfl
  survivors _ _ := (max_def _ _).symm
  atLeast _ _ := decide_eq_true_iff

theorem roundedRounds (round : Rat → Rat) : Rounds (Rounded round) round Rounded.value where
  ofNat n := ⟨⟨n⟩, rfl, rfl⟩
  zero := rfl
  one := rfl
  survivors _ _ := rfl
  atLeast _ _ := decide_eq_true_iff

section
variable {ν : Type} [Scale ν] {round : Rat → Rat} {value : ν → Rat} (rounds : Rounds ν round value)
include rounds

theorem cutoffMade (length typos : Nat) :
    ∃ x : ν, ofLength length typos = .ok x ∧ value x = closedForm round length typos := by
  rcases Nat.lt_or_ge length trigramLength with short | long
  · refine ⟨if 1 ≤ typos then Scale.zero else Scale.one, if_pos short, ?_⟩
    rw [closedForm, if_pos short]
    split
    · exact rounds.zero
    · exact rounds.one
  · obtain ⟨n, number, same⟩ := rounds.ofNat length
    obtain ⟨k, budget, other⟩ := rounds.ofNat typos
    refine ⟨Scale.survivors n k, by rw [ofLengthSteps long, number, budget]; rfl, ?_⟩
    rw [rounds.survivors, same, other, closedLong round long]
    rfl

theorem cutoffValue {length typos : Nat} {x : ν} (made : ofLength length typos = .ok x) :
    value x = closedForm round length typos := by
  obtain ⟨y, again, same⟩ := cutoffMade rounds length typos
  rw [made] at again
  rwa [Except.ok.inj again]

end

/-! ## In doubles -/

section
open Number.Binary64

theorem wholeMade {length typos : Nat} (long : trigramLength ≤ length) (sum : Whole (length + 2))
    (product : Whole (3 * typos)) :
    (ofLength length typos : Except Fault Binary64) =
      .ok (div (if 3 * typos ≤ length + 2 then ofWhole false (length + 2 - 3 * typos)
        else ofWhole true (3 * typos - (length + 2))) (ofWhole false (length + 2))).clampBelow := by
  have size : Whole length := Nat.le_trans (Nat.le_add_right length 2) sum
  have budget : Whole typos := Nat.le_trans (Nat.le_mul_of_pos_left typos (by decide)) product
  have two : (2 : Binary64) = ofWhole false 2 := ofNatWhole (by decide)
  have three : (3 : Binary64) = ofWhole false 3 := ofNatWhole (by decide)
  rw [ofLengthSteps long, ofNatEq, ofNatEq, ofIntWhole size, ofIntWhole budget]
  change Except.ok (Scale.survivors (ofWhole false length) (ofWhole false typos)) = _
  rw [survivorsEq, overEq, minusEq, plusEq, timesEq, two, three, sumWhole sum, productWhole product,
    differenceWhole sum product]

theorem wholeRounded {length typos : Nat} (sum : Whole (length + 2)) (product : Whole (3 * typos)) :
    ∃ u : Nat, (ofLength length typos : Except Fault Binary64) = .ok (finite false u) ∧
      (u : Rat) / unit = closedForm nearestRat length typos := by
  have positive : 0 < length + 2 := Nat.succ_pos _
  rcases Nat.lt_or_ge length trigramLength with short | long
  · rw [ofLength, if_pos short, closedForm, if_pos short]
    split
    · exact ⟨0 * unit, congrArg Except.ok (ofNatWhole (by decide)), by simp⟩
    · exact ⟨1 * unit, congrArg Except.ok (ofNatWhole (by decide)), by rw [Nat.one_mul, div_self unitNonzero]⟩
  · rw [wholeMade long sum product]
    -- Where more is lost than there is, the quotient is below zero and clamped, on both sides.
    by_cases left : 3 * typos ≤ length + 2
    · refine ⟨_, by rw [if_pos left, quotientWhole positive (Nat.sub_le _ _), clampedSame], ?_⟩
      rw [closedLong nearestRat long, survivingPart left, nearestQuotient _ positive]
      exact (max_eq_right (div_nonneg (Nat.cast_nonneg _) (Nat.cast_nonneg _))).symm
    · have low := negativeQuotient ((3 * typos - (length + 2)) * unit) (Nat.mul_pos positive unitPositive)
      refine ⟨0, by rw [if_neg left, ofWhole, ofWhole, clampedNone low]; rfl, ?_⟩
      rw [closedNone nearestRounding long (by omega)]
      simp

theorem wholeCutoff {length typos : Nat} (sum : Whole (length + 2)) (product : Whole (3 * typos)) : ∃ u : Nat,
    (ofLength length typos : Except Fault Binary64) = .ok (finite false u) ∧
      ofLength length typos = .ok (⟨u / unit⟩ : Rounded nearestRat) := by
  obtain ⟨u, doubles, units⟩ := wholeRounded sum product
  obtain ⟨⟨x⟩, made, value⟩ := cutoffMade (roundedRounds nearestRat) length typos
  have same : x = u / unit := value.trans units.symm
  rw [same] at made
  exact ⟨u, doubles, made⟩

end
end Cutoff
end TypoSearch
