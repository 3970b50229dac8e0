import Mathlib.Algebra.Order.Field.Rat
import Mathlib.Data.List.Induction
import Mathlib.Tactic.Ring
import TypoSearch.Number.Reading
import TypoSearch.Proofs.Number.Plain
import TypoSearch.Value.Numeric

/-! The number that a numeral denotes. A numeral is a sign, digits, perhaps a point with digits behind it, and
perhaps a power of ten. Every written numeral reads back as it was written, and carrying its power of ten out into
its digits changes neither its sign nor its number. -/
namespace TypoSearch.Number

theorem ofDigitsAppend (ds es : List Digit) :
    ofDigits (ds ++ es) = ofDigits ds * 10 ^ es.length + ofDigits es := by
  induction es using List.reverseRecOn with
  | nil => simp [ofDigits]
  | append_singleton es e ih =>
    rw [← List.append_assoc, ofDigitsSnoc, ofDigitsSnoc, ih, List.length_append, List.length_singleton, pow_succ]
    ring

theorem ofDigitsZeros (n : Nat) : ofDigits (zeros n) = 0 := by
  induction n with
  | zero => rfl
  | succ n ih => rw [zeros, List.replicate_succ', ← zeros, ofDigitsSnoc, ih]; rfl

def leadingDigits : List Char → List Digit × List Char
  | [] => ([], [])
  | c :: cs =>
    match plainDigitOf? c with
    | some d => (d :: (leadingDigits cs).1, (leadingDigits cs).2)
    | none => ([], c :: cs)

def someDigits? (cs : List Char) : Option (List Digit × List Char) :=
  if (leadingDigits cs).1.isEmpty then none else some (leadingDigits cs)

theorem plainDigit (d : Digit) : plainDigitOf? d.char = some d := by
  revert d
  decide

theorem digitsLeading (ds : List Digit) {rest : List Char} (ends : ∀ c ∈ rest.head?, plainDigitOf? c = none) :
    leadingDigits (digitChars ds ++ rest) = (ds, rest) := by
  induction ds with
  | nil =>
    cases rest with
    | nil => rfl
    | cons c rest => simp [digitChars, leadingDigits, ends c rfl]
  | cons d ds ih =>
    have behind : digitChars (d :: ds) ++ rest = d.char :: (digitChars ds ++ rest) := rfl
    rw [behind, leadingDigits, plainDigit, ih]

theorem digitsRead {ds : List Digit} (nonempty : ds ≠ []) {rest : List Char}
    (ends : ∀ c ∈ rest.head?, plainDigitOf? c = none) : someDigits? (digitChars ds ++ rest) = some (ds, rest) := by
  rw [someDigits?, digitsLeading ds ends, if_neg (by simpa using nonempty)]

namespace Numeral

def readFraction? : List Char → Option (List Digit × List Char)
  | '.' :: cs => someDigits? cs
  | cs => some ([], cs)

def readExponent? : List Char → Option (Option Int)
  | [] => some none
  | 'e' :: cs => do
    let (negative, cs) := takeSign cs
    let (ds, rest) ← someDigits? cs
    if rest.isEmpty then return some (if negative then -(Number.ofDigits ds : Int) else Number.ofDigits ds)
    else none
  | _ => none

def read? (cs : List Char) : Option Numeral := do
  let (negative, cs) := takeSign cs
  let (whole, cs) ← someDigits? cs
  let (fraction, cs) ← readFraction? cs
  let exponent ← readExponent? cs
  return ⟨negative, whole, fraction, exponent⟩

def magnitude (n : Numeral) : Rat :=
  (Number.ofDigits (n.whole ++ n.fraction) : Rat) * 10 ^ (n.exponent.getD 0 - n.fraction.length)

/-! ## Reading back -/

theorem digitUnsigned (d : Digit) : d.char ≠ '-' ∧ d.char ≠ '+' := by
  revert d
  decide

theorem signRead (negative : Bool) {whole : List Digit} (nonempty : whole ≠ []) (rest : List Char) :
    takeSign (signChars negative ++ (digitChars whole ++ rest)) = (negative, digitChars whole ++ rest) := by
  obtain ⟨d, ds, rfl⟩ := List.exists_cons_of_ne_nil nonempty
  cases negative with
  | true => rfl
  | false =>
    change takeSign (d.char :: (digitChars ds ++ rest)) = _
    unfold takeSign
    split
    · rename_i same
      exact absurd (List.cons.inj same).1 (digitUnsigned d).1
    · rename_i same
      exact absurd (List.cons.inj same).1 (digitUnsigned d).2
    · rfl

theorem fractionRead (ds : List Digit) {rest : List Char} (behind : ∀ c ∈ rest.head?, c = 'e') :
    readFraction? (fractionChars ds ++ rest) = some (ds, rest) := by
  cases ds with
  | nil =>
    cases rest with
    | nil => rfl
    | cons c rest =>
      cases behind c rfl
      rfl
  | cons d ds =>
    refine digitsRead (List.cons_ne_nil d ds) fun c found => ?_
    cases behind c found
    rfl

theorem exponentDigits (e : Int) : ∃ ds, ds ≠ [] ∧ Number.ofDigits ds = e.natAbs ∧
    exponentChars e = 'e' :: (if e < 0 then '-' else '+') :: digitChars ds := by
  by_cases short : (digitChars (digits e.natAbs)).length < 2
  · refine ⟨0 :: digits e.natAbs, List.cons_ne_nil _ _, ?_, ?_⟩
    · have padded := ofDigitsAppend [0] (digits e.natAbs)
      rw [ofDigitsDigits] at padded
      simpa [Number.ofDigits] using padded
    · rw [exponentChars, if_pos short]
      rfl
  · exact ⟨digits e.natAbs, digitsSome _, ofDigitsDigits _, by rw [exponentChars, if_neg short]⟩

theorem signedMagnitude (e : Int) :
    (if decide (e < 0) = true then -(e.natAbs : Int) else (e.natAbs : Int)) = e := by
  simp only [decide_eq_true_eq]
  split <;> omega

theorem exponentRead (e : Int) : readExponent? (exponentChars e) = some (some e) := by
  obtain ⟨ds, nonempty, value, chars⟩ := exponentDigits e
  have digits : someDigits? (digitChars ds) = some (ds, []) := by
    simpa using @digitsRead ds nonempty [] (by simp)
  have sign : takeSign ((if e < 0 then '-' else '+') :: digitChars ds) = (decide (e < 0), digitChars ds) := by
    split <;> simp_all [takeSign]
  rw [chars, readExponent?, sign]
  simp only [digits, bind, Option.bind, pure]
  rw [value, if_pos List.isEmpty_nil, signedMagnitude]

theorem charsBehind (n : Numeral) : ∃ rest : List Char,
    n.chars = signChars n.negative ++ (digitChars n.whole ++ (fractionChars n.fraction ++ rest)) ∧
      (∀ c ∈ rest.head?, c = 'e') ∧ readExponent? rest = some n.exponent := by
  unfold chars
  split
  · rename_i none
    exact ⟨[], by simp, by simp, by rw [none]; rfl⟩
  · rename_i e some
    exact ⟨exponentChars e, by simp, by simp [exponentChars], by rw [some, exponentRead]⟩

theorem charsRead {n : Numeral} (whole : n.whole ≠ []) : read? n.chars = some n := by
  obtain ⟨rest, chars, behind, read⟩ := charsBehind n
  have ends : ∀ c ∈ (fractionChars n.fraction ++ rest).head?, plainDigitOf? c = none := by
    intro c found
    cases shape : n.fraction with
    | nil =>
      rw [shape] at found
      cases behind c found
      rfl
    | cons d ds =>
      rw [shape] at found
      cases found
      rfl
  rw [chars, read?, signRead n.negative whole]
  simp only [digitsRead whole ends, fractionRead n.fraction behind, read, bind, Option.bind, pure]

/-! ## Carrying out the power of ten -/

theorem placedMagnitude (negative : Bool) (ds : List Digit) (point : Int) :
    (placed negative ds point).magnitude = (Number.ofDigits ds : Rat) * 10 ^ (point - ds.length) := by
  -- The point stands before all digits, behind all of them, or among them.
  unfold placed
  split
  · have digits : Number.ofDigits (zeros 1 ++ (zeros (-point).toNat ++ ds)) = Number.ofDigits ds := by
      rw [ofDigitsAppend, ofDigitsAppend, ofDigitsZeros, ofDigitsZeros]
      simp
    have places : (0 : Int) - (zeros (-point).toNat ++ ds).length = point - ds.length := by
      simp only [zeros, List.length_append, List.length_replicate]
      omega
    rw [magnitude, digits, Option.getD_none, places]
  · rename_i positive
    obtain ⟨n, rfl⟩ := Int.eq_ofNat_of_zero_le (Int.le_of_not_le positive)
    rw [Int.toNat_natCast]
    rcases Nat.le_total ds.length n with short | long
    · have digits : Number.ofDigits (ds.take n ++ zeros (n - ds.length) ++ ds.drop n) =
          Number.ofDigits ds * 10 ^ (n - ds.length) := by
        rw [List.take_of_length_le short, List.drop_of_length_le short, List.append_nil, ofDigitsAppend,
          ofDigitsZeros]
        simp [zeros]
      have places : (n : Int) - ds.length = (n - ds.length : Nat) := (Int.ofNat_sub short).symm
      have noFraction : (0 : Int) - (ds.drop n).length = 0 := by rw [List.drop_of_length_le short]; rfl
      rw [magnitude, digits, Option.getD_none, noFraction, places, zpow_zero, mul_one, zpow_natCast]
      push_cast
      rfl
    · have digits : ds.take n ++ zeros (n - ds.length) ++ ds.drop n = ds := by
        simp [zeros, Nat.sub_eq_zero_of_le long]
      have places : (0 : Int) - (ds.drop n).length = n - ds.length := by
        rw [List.length_drop]
        omega
      rw [magnitude, digits, Option.getD_none, places]

theorem plainMagnitude (n : Numeral) : n.plain.magnitude = n.magnitude := by
  unfold plain
  split
  · rfl
  · rename_i e exponent
    have places : (n.whole.length : Int) + e - (n.whole ++ n.fraction).length = e - n.fraction.length := by
      rw [List.length_append]
      omega
    rw [placedMagnitude, places, magnitude, exponent, Option.getD_some]

structure WrittenOut (given text : List Char) (n m : Numeral) : Prop where
  read : read? given = some n
  reread : read? text = some m
  form : text = signChars m.negative ++ digitChars m.whole ++ fractionChars m.fraction
  whole : m.whole ≠ []
  unmarked : 'e' ∉ text ∧ 'E' ∉ text
  sign : m.negative = n.negative
  magnitude : m.magnitude = n.magnitude

theorem digitUnmarked (d : Digit) : d.char ≠ 'e' ∧ d.char ≠ 'E' := by
  revert d
  decide

theorem flatUnmarked (negative : Bool) (whole fraction : List Digit) {c : Char}
    (member : c ∈ signChars negative ++ digitChars whole ++ fractionChars fraction) : c ≠ 'e' ∧ c ≠ 'E' := by
  have letters : ∀ ds, c ∈ digitChars ds → c ≠ 'e' ∧ c ≠ 'E' := by
    intro ds inside
    obtain ⟨d, _, rfl⟩ := List.mem_map.mp inside
    exact digitUnmarked d
  rcases List.mem_append.mp member with front | inFraction
  · rcases List.mem_append.mp front with inSign | inWhole
    · unfold signChars at inSign
      split at inSign
      · cases List.mem_singleton.mp inSign
        decide
      · cases inSign
    · exact letters whole inWhole
  · unfold fractionChars at inFraction
    split at inFraction
    · cases inFraction
    · rcases List.mem_cons.mp inFraction with rfl | digits
      · decide
      · exact letters fraction digits

theorem plainWrittenOut {negative : Bool} {n : Numeral} (signed : IsSigned negative n) :
    WrittenOut n.chars n.plain.chars n n.plain := by
  have plain := plainSigned signed
  have form : n.plain.chars =
      signChars n.plain.negative ++ digitChars n.plain.whole ++ fractionChars n.plain.fraction := by
    rw [chars, plainFlat n]
    exact List.append_nil _
  have unmarked : ∀ c ∈ n.plain.chars, c ≠ 'e' ∧ c ≠ 'E' := by
    rw [form]
    exact fun c => flatUnmarked _ _ _
  exact {
    read := charsRead signed.whole
    reread := charsRead plain.whole
    form := form
    whole := plain.whole
    unmarked := ⟨fun member => (unmarked _ member).1 rfl, fun member => (unmarked _ member).2 rfl⟩
    sign := plain.sign.trans signed.sign.symm
    magnitude := plainMagnitude n }

end Numeral

theorem plainKept (negative : Bool) (units : Nat) :
    ∃ (text : String) (n m : Numeral), (Value.float (.finite negative units)).plainNumber = .ok text ∧
      n.negative = negative ∧
      Numeral.WrittenOut (Binary64.finite negative units).shown.toList text.toList n m := by
  have signed := Numeral.shortestSigned negative units
  have shown : (Binary64.finite negative units).shown.toList = (Numeral.shortest negative units).chars :=
    String.toList_ofList
  have plain : (Binary64.finite negative units).plainText.toList = (Numeral.shortest negative units).plain.chars :=
    String.toList_ofList
  have written := Numeral.plainWrittenOut signed
  rw [← shown, ← plain] at written
  exact ⟨_, _, _, rfl, signed.sign, written⟩

end TypoSearch.Number
