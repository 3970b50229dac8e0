import TypoSearch.Proofs.Number.Denotation
import TypoSearch.Proofs.Number.Shortest

/-! Numbers that are read from text. What is read is rounded, so it is a double, and the plain text of a number
is read as that number exactly if it is a double. -/
namespace TypoSearch.Number

namespace Binary64

def IsDouble : Binary64 → Prop
  | finite _ u => u < limit ∧ Representable u
  | _ => True

theorem zeroDouble (negative : Bool) : IsDouble (finite negative 0) :=
  ⟨Nat.lt_trans unitPositive unitBelowLimit, Nat.dvd_zero _⟩

theorem ofUnitsDouble (negative : Bool) (n : Nat) {d : Nat} (positive : 0 < d) : IsDouble (ofUnits negative n d) := by
  rcases ofUnitsCases negative n positive with ⟨r, inRange, exact, same⟩ | same
  · rw [same]
    exact ⟨inRange, exact⟩
  · rw [same]
    exact trivial

theorem divDouble (x y : Binary64) : IsDouble (div x y) := by
  rcases x with _ | s | ⟨s, u⟩ <;> rcases y with _ | t | ⟨t, v⟩ <;> try exact trivial
  · exact zeroDouble _
  · unfold div
    dsimp only
    split
    · split <;> exact trivial
    · rename_i nonzero
      exact ofUnitsDouble _ _ (Nat.pos_of_ne_zero nonzero)

theorem clampDouble {x : Binary64} (double : IsDouble x) : IsDouble x.clampBelow := by
  unfold clampBelow
  split
  · exact double
  · exact zeroDouble false

theorem ofDecimalDouble (negative : Bool) (c : Nat) (e : Int) : IsDouble (ofDecimal negative c e) := by
  unfold ofDecimal
  dsimp only
  split
  · exact zeroDouble negative
  · split
    · exact trivial
    · split
      · exact ofUnitsDouble _ _ Nat.one_pos
      · exact ofUnitsDouble _ _ (Nat.pow_pos (by decide))

theorem ofUnitsNearest {n d u : Nat} (same : nearest n d = u) (inRange : u < limit) (negative : Bool) :
    ofUnits negative n d = finite negative u := by
  rw [ofUnits, same, if_pos inRange]

theorem nearestTiny {n d : Nat} (tiny : 2 * n < d) : nearest n d = 0 := by
  have none : n / d = 0 := Nat.div_eq_of_lt (by omega)
  have half : divHalfEven n d = 0 := by
    rw [divHalfEven, none, Nat.mod_eq_of_lt (by omega), if_pos tiny]
  have one : spacing 0 = 1 := by decide
  rw [nearest, none, one, Nat.mul_one, Nat.mul_one, half]

end Binary64

namespace Decimal
open Binary64

section
variable {c u : Nat} {e : Int}

theorem valueBelow (c : Nat) (e : Int) : (⟨c, e⟩ : Decimal).value < 10 ^ (e + (Nat.toDigits 10 c).length) := by
  have below := (Nat.length_toDigits_le_iff (by decide) Nat.length_toDigits_pos).mp
    (Nat.le_refl (Nat.toDigits 10 c).length)
  rw [value, zpow_add₀ (by norm_num), mul_comm, zpow_natCast]
  exact mul_lt_mul_of_pos_left (by exact_mod_cast below) (tenPositive e)

theorem valueReached (positive : 0 < c) (e : Int) :
    10 ^ (e + (Nat.toDigits 10 c).length - 1) ≤ (⟨c, e⟩ : Decimal).value := by
  have digits := Nat.length_toDigits_pos (b := 10) (n := c)
  have places : e + (Nat.toDigits 10 c).length - 1 = e + ((Nat.toDigits 10 c).length - 1 : Nat) := by omega
  rw [places, value, zpow_add₀ (by norm_num), mul_comm (c : Rat), zpow_natCast]
  exact mul_le_mul_of_nonneg_left (by exact_mod_cast lengthReached positive) (tenPositive e).le

theorem farPower : (10 : Rat) ^ farExponent = (Nat.pow 10 scale : Nat) := by
  have places : farExponent = (scale : Int) := rfl
  rw [places, zpow_natCast, Nat.pow_eq, Nat.cast_pow, Nat.cast_ofNat]

theorem readsSmall {d : Decimal} (reads : d.readsAs u = true) (small : 2 * (d.value * unit) < 1) : u = 0 := by
  have size : (0 : Rat) < d.ratio.2 := Nat.cast_pos.mpr (ratioPositive d)
  rw [← ratioValue, ← mul_div_assoc, div_lt_one size] at small
  rw [← beq_iff_eq.mp reads]
  exact nearestTiny (by exact_mod_cast small)

theorem readsTiny (reads : (⟨c, e⟩ : Decimal).readsAs u = true)
    (tiny : e + ((Nat.toDigits 10 c).length : Int) < -farExponent) : u = 0 := by
  have wide : (unit : Rat) ≤ 10 ^ farExponent := by
    rw [farPower]
    exact Nat.cast_le.mpr unitWide
  have step : (10 : Rat) ^ (-1 - farExponent) * 10 ^ farExponent = 10⁻¹ := by
    rw [← zpow_add₀ (by norm_num), Int.sub_add_cancel, zpow_neg_one]
  have below : (⟨c, e⟩ : Decimal).value ≤ 10 ^ (-1 - farExponent) :=
    le_trans (valueBelow c e).le (zpow_le_zpow_right₀ (by norm_num) (by omega))
  have product : (⟨c, e⟩ : Decimal).value * unit ≤ 10⁻¹ := by
    rw [← step]
    exact mul_le_mul below wide (Nat.cast_nonneg unit) (tenPositive _).le
  exact readsSmall reads (by linarith)

theorem readsHuge (reads : (⟨c, e⟩ : Decimal).readsAs u = true) (some : 0 < c)
    (huge : farExponent < e + ((Nat.toDigits 10 c).length : Int)) : limit ≤ u := by
  have beyond : limit ≤ Nat.pow 10 scale * unit := by decide +kernel
  have reached : (10 : Rat) ^ farExponent ≤ (⟨c, e⟩ : Decimal).value :=
    le_trans (zpow_le_zpow_right₀ (by norm_num) (by omega)) (valueReached some e)
  rw [farPower] at reached
  have size : (0 : Rat) < (ratio ⟨c, e⟩).2 := Nat.cast_pos.mpr (ratioPositive _)
  have passed : (limit : Rat) ≤ (ratio ⟨c, e⟩).1 / (ratio ⟨c, e⟩).2 := by
    rw [ratioValue]
    calc (limit : Rat) ≤ (Nat.pow 10 scale : Nat) * (unit : Nat) := by exact_mod_cast beyond
      _ ≤ _ := mul_le_mul_of_nonneg_right reached (Nat.cast_nonneg unit)
  rw [le_div_iff₀ size] at passed
  rw [← beq_iff_eq.mp reads]
  refine nearestAtLeast (ratioPositive _) ?_ (powerRepresentable 2098)
  rw [Nat.mul_comm]
  exact_mod_cast passed

theorem ofDecimalReads (reads : (⟨c, e⟩ : Decimal).readsAs u = true) (inRange : u < limit) (negative : Bool) :
    ofDecimal negative c e = finite negative u := by
  have same : nearest (ratio ⟨c, e⟩).1 (ratio ⟨c, e⟩).2 = u := beq_iff_eq.mp reads
  unfold ofDecimal
  dsimp only
  split
  · rename_i small
    have none : u = 0 := by
      rw [Bool.or_eq_true, decide_eq_true_eq, decide_eq_true_eq] at small
      rcases small with rfl | tiny
      · exact readsSmall reads (by simp [value])
      · exact readsTiny reads tiny
    rw [none]
  · rename_i large
    split
    · rename_i huge
      rw [Bool.or_eq_true, decide_eq_true_eq, not_or] at large
      have reached := readsHuge reads (Nat.pos_of_ne_zero large.1) huge
      exact absurd inRange (Nat.not_lt.mpr reached)
    · split
      · rename_i sign
        rw [ratio, if_pos sign] at same
        exact ofUnitsNearest same inRange negative
      · rename_i sign
        rw [ratio, if_neg sign] at same
        exact ofUnitsNearest same inRange negative

end

end Decimal

namespace Numeral

theorem withPointMagnitude (n : Numeral) : n.withPoint.magnitude = n.magnitude := by
  unfold withPoint
  split
  · rename_i empty
    have none := List.isEmpty_iff.mp empty
    have digits : Number.ofDigits (n.whole ++ zeros 1) = Number.ofDigits n.whole * 10 := by
      rw [ofDigitsAppend, ofDigitsZeros]
      rfl
    have places : n.exponent.getD 0 = n.exponent.getD 0 - (zeros 1).length + 1 := (Int.sub_add_cancel _ _).symm
    rw [magnitude, magnitude, digits, none, List.append_nil, List.length_nil, Nat.cast_zero, sub_zero]
    nth_rewrite 2 [places]
    rw [zpow_add₀ (by norm_num), zpow_one]
    push_cast
    ring
  · rfl

theorem ofDigitsMagnitude (negative : Bool) {ds : List Digit} (some : ds ≠ []) (leading : Int) :
    (ofDigits negative ds leading).magnitude = (Number.ofDigits ds : Rat) * 10 ^ (leading + 1 - ds.length) := by
  unfold ofDigits
  split
  · rw [withPointMagnitude, placedMagnitude]
  · have length := List.length_pos_of_ne_nil some
    have places : leading - (ds.drop 1).length = leading + 1 - ds.length := by
      rw [List.length_drop]
      omega
    rw [magnitude, List.take_append_drop, Option.getD_some, places]

theorem shortestMagnitude (negative : Bool) {u : Nat} (nonzero : u ≠ 0) :
    (shortest negative u).magnitude = (Decimal.shortest u).value := by
  have places : (Decimal.shortest u).exponent + (digits (Decimal.shortest u).coefficient).length - 1 + 1 -
      (digits (Decimal.shortest u).coefficient).length = (Decimal.shortest u).exponent := by omega
  rw [shortest, if_neg nonzero, ofDigitsMagnitude negative (digitsSome _), ofDigitsDigits, places, Decimal.value]

theorem plainReads (negative : Bool) {u : Nat} (exact : Binary64.Representable u) :
    (⟨Number.ofDigits ((shortest negative u).plain.whole ++ (shortest negative u).plain.fraction),
      0 - (shortest negative u).plain.fraction.length⟩ : Decimal).readsAs u = true := by
  rcases Nat.eq_zero_or_pos u with rfl | positive
  · cases negative <;> decide +kernel
  · have same := plainMagnitude (shortest negative u)
    rw [shortestMagnitude negative (Nat.ne_of_gt positive), magnitude, plainFlat, Option.getD_none] at same
    have value : (⟨Number.ofDigits ((shortest negative u).plain.whole ++ (shortest negative u).plain.fraction),
        0 - (shortest negative u).plain.fraction.length⟩ : Decimal).value = (Decimal.shortest u).value := same
    rw [Decimal.readsAsValue value]
    exact Decimal.shortestReads positive exact

/-! ## Taking a text apart -/

theorem digitBare (d : Digit) : surroundsNumber d.char = false := by
  revert d
  decide

theorem digitTaken (d : Digit) : digitOf? d.char = some d := by
  revert d
  decide

theorem digitWordless (d : Digit) : d.char.toLower ≠ 'i' ∧ d.char.toLower ≠ 'n' := by
  revert d
  decide

theorem trimKept {cs : List Char} (bare : ∀ c ∈ cs, surroundsNumber c = false) : trimNumber cs = cs := by
  have kept {ds : List Char} (all : ∀ c ∈ ds, surroundsNumber c = false) : ds.dropWhile surroundsNumber = ds := by
    cases ds with
    | nil => rfl
    | cons d ds => rw [List.dropWhile_cons_of_neg (by simp [all d List.mem_cons_self])]
  rw [trimNumber, kept bare, kept fun c member => bare c (List.mem_reverse.mp member), List.reverse_reverse]

theorem digitsTaken (ds : List Digit) (seen : Bool) {rest : List Char}
    (ends : ∀ c ∈ rest.head?, digitOf? c = none ∧ c ≠ '_') :
    takeAfter digitOf? seen (digitChars ds ++ rest) = (ds, rest) := by
  induction ds generalizing seen with
  | nil =>
    cases rest with
    | nil => rfl
    | cons c rest =>
      obtain ⟨other, mark⟩ := ends c rfl
      simp [digitChars, takeAfter, other, mark]
  | cons d ds ih =>
    have behind : digitChars (d :: ds) ++ rest = d.char :: (digitChars ds ++ rest) := rfl
    rw [behind, takeAfter, digitTaken, ih]

theorem fractionTaken (ds : List Digit) : takeFraction (fractionChars ds) = (ds, []) := by
  cases ds with
  | nil => rfl
  | cons d ds =>
    have taken := @digitsTaken (d :: ds) false [] (by simp)
    rwa [List.append_nil] at taken

theorem decimalTaken (negative : Bool) {whole : List Digit} (some : whole ≠ []) (fraction : List Digit) :
    readDecimal? negative (digitChars whole ++ fractionChars fraction) =
      .some (Binary64.ofDecimal negative (Number.ofDigits (whole ++ fraction)) (0 - fraction.length)) := by
  have ends : ∀ c ∈ (fractionChars fraction).head?, digitOf? c = none ∧ c ≠ '_' := by
    cases fraction with
    | nil => simp [fractionChars]
    | cons d ds =>
      rintro c ⟨⟩
      decide
  rw [readDecimal?, takeDigits, digitsTaken whole false ends]
  simp [fractionTaken, takeExponent?, some]

theorem flatBare (negative : Bool) (whole fraction : List Digit) {c : Char}
    (member : c ∈ signChars negative ++ (digitChars whole ++ fractionChars fraction)) : surroundsNumber c = false := by
  have letters : ∀ ds, c ∈ digitChars ds → surroundsNumber c = false := by
    intro ds inside
    obtain ⟨d, _, rfl⟩ := List.mem_map.mp inside
    exact digitBare d
  rcases List.mem_append.mp member with inSign | behind
  · unfold signChars at inSign
    split at inSign
    · cases List.mem_singleton.mp inSign
      decide
    · cases inSign
  · rcases List.mem_append.mp behind with inWhole | inFraction
    · exact letters whole inWhole
    · unfold fractionChars at inFraction
      split at inFraction
      · cases inFraction
      · rcases List.mem_cons.mp inFraction with rfl | digits
        · decide
        · exact letters fraction digits

theorem textRead {n : Numeral} (whole : n.whole ≠ []) (flat : n.exponent = none) :
    readBinary64? n.text = some (Binary64.ofDecimal n.negative (Number.ofDigits (n.whole ++ n.fraction))
      (0 - n.fraction.length)) := by
  have chars : n.text.toList = signChars n.negative ++ (digitChars n.whole ++ fractionChars n.fraction) := by
    rw [text, String.toList_ofList, Numeral.chars, flat, List.append_nil, List.append_assoc]
  have wordless : ∀ word : List Char, word.head? = some 'i' ∨ word.head? = some 'n' →
      (digitChars n.whole ++ fractionChars n.fraction).map Char.toLower ≠ word := by
    obtain ⟨d, ds, same⟩ := List.exists_cons_of_ne_nil whole
    rintro word first rfl
    have letter := digitWordless d
    simp [same, digitChars, letter] at first
  have infinite : infinityWords.contains ((digitChars n.whole ++ fractionChars n.fraction).map Char.toLower) =
      false := by
    rw [List.contains_eq_mem, decide_eq_false_iff_not]
    intro member
    simp only [infinityWords, List.mem_cons, List.not_mem_nil, or_false] at member
    rcases member with same | same
    · exact wordless _ (.inl rfl) same
    · exact wordless _ (.inl rfl) same
  rw [readBinary64?, chars, trimKept fun c => flatBare _ _ _, signRead n.negative whole]
  dsimp only
  rw [infinite, if_neg Bool.false_ne_true, if_neg (wordless _ (.inr rfl)), decimalTaken n.negative whole]

end Numeral

theorem plainTextRead (x : Binary64) : readBinary64? x.plainText = some x ↔ x.IsDouble := by
  rcases x with _ | negative | ⟨negative, u⟩
  · exact iff_of_true (by decide) trivial
  · exact iff_of_true (by cases negative <;> decide) trivial
  · have signed := Numeral.plainSigned (Numeral.shortestSigned negative u)
    have read : readBinary64? (Binary64.finite negative u).plainText = _ :=
      Numeral.textRead signed.whole (Numeral.plainFlat _)
    rw [read, signed.sign, Option.some.injEq]
    constructor
    · intro same
      have double := Binary64.ofDecimalDouble negative
        (ofDigits ((Numeral.shortest negative u).plain.whole ++ (Numeral.shortest negative u).plain.fraction))
        (0 - (Numeral.shortest negative u).plain.fraction.length)
      rwa [same] at double
    · rintro ⟨inRange, exact⟩
      exact Decimal.ofDecimalReads (Numeral.plainReads negative exact) inRange negative

theorem numeralKept {x : Binary64} (double : x.IsDouble) : numeral x.plainText = x := by
  rw [numeral, (plainTextRead x).mpr double, Option.getD_some]

end TypoSearch.Number
