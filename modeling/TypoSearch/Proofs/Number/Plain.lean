import TypoSearch.Number.Numeral

/-! The plain form of a number: perhaps a sign, then digits, and perhaps a point with digits behind it. -/
namespace TypoSearch.Number

theorem digitsSome (n : Nat) : digits n ≠ [] := by
  unfold digits
  split <;> simp

namespace Numeral

structure IsSigned (negative : Bool) (n : Numeral) : Prop where
  sign : n.negative = negative
  whole : n.whole ≠ []

structure IsPlain (n : Numeral) : Prop where
  unsigned : n.negative = false
  whole : n.whole ≠ []
  flat : n.exponent = none

theorem zeroWhole : zeros 1 ≠ [] := List.cons_ne_nil _ _

theorem placedSigned (negative : Bool) (ds : List Digit) (point : Int) :
    IsSigned negative (placed negative ds point) := by
  unfold placed
  split
  · exact ⟨rfl, zeroWhole⟩
  · rename_i positive
    refine ⟨rfl, ?_⟩
    apply List.ne_nil_of_length_pos
    simp only [zeros, List.length_append, List.length_take, List.length_replicate]
    omega

theorem placedFlat (negative : Bool) (ds : List Digit) (point : Int) :
    (placed negative ds point).exponent = none := by
  unfold placed
  split <;> rfl

theorem withPointSigned {negative : Bool} {n : Numeral} (signed : IsSigned negative n) :
    IsSigned negative n.withPoint := by
  unfold withPoint
  split
  · exact ⟨signed.sign, signed.whole⟩
  · exact signed

theorem ofDigitsSigned (negative : Bool) {ds : List Digit} (nonempty : ds ≠ []) (leading : Int) :
    IsSigned negative (ofDigits negative ds leading) := by
  unfold ofDigits
  split
  · exact withPointSigned (placedSigned negative ds _)
  · obtain ⟨d, ds, rfl⟩ := List.exists_cons_of_ne_nil nonempty
    exact ⟨rfl, List.cons_ne_nil _ _⟩

theorem shortestSigned (negative : Bool) (units : Nat) : IsSigned negative (shortest negative units) := by
  unfold shortest
  split
  · exact ⟨rfl, zeroWhole⟩
  · exact ofDigitsSigned negative (digitsSome _) _

theorem plainSigned {negative : Bool} {n : Numeral} (signed : IsSigned negative n) :
    IsSigned negative n.plain := by
  unfold plain
  split
  · exact signed
  · rw [signed.sign]
    exact placedSigned negative _ _

theorem plainFlat (n : Numeral) : n.plain.exponent = none := by
  unfold plain
  split
  · assumption
  · exact placedFlat _ _ _

theorem shortestPlain (units : Nat) : IsPlain (shortest false units).plain :=
  have signed := plainSigned (shortestSigned false units)
  ⟨signed.sign, signed.whole, plainFlat _⟩

theorem plainChars {n : Numeral} (plain : IsPlain n) :
    n.chars = digitChars n.whole ++ fractionChars n.fraction := by
  simp [chars, plain.unsigned, plain.flat, signChars]

end Numeral

theorem plainTextChars (units : Nat) : ∃ whole fraction : List Digit, whole ≠ [] ∧
    (Binary64.finite false units).plainText.toList =
      digitChars whole ++ Numeral.fractionChars fraction := by
  have plain := Numeral.shortestPlain units
  refine ⟨_, (Numeral.shortest false units).plain.fraction, plain.whole, ?_⟩
  rw [← Numeral.plainChars plain]
  exact String.toList_ofList

end TypoSearch.Number
