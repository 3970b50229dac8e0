import TypoSearch.Proofs.Matching
import TypoSearch.Proofs.Plan.Surviving
import TypoSearch.Proofs.Similarity.Edit
import TypoSearch.Proofs.Similarity.Window
import TypoSearch.Proofs.Text.Containment

/-! The budget of typos is honoured: a target that holds the pattern with no more typos than that is
matched. The window over the place of the pattern keeps all but one in the pattern's length for each
typo, while the cutoff allows for three. -/
namespace TypoSearch.Similarity
open Cutoff (trigramsPositive survivingLost survivingNone survivorsExact)

theorem widened {part cs : List Char} (inside : part <:+: cs) {size : Nat} (least : part.length ≤ size)
    (most : size ≤ cs.length) : ∃ wide : List Char, wide <:+: cs ∧ wide.length = size ∧ part.Sublist wide := by
  obtain ⟨before, after, rfl⟩ := inside
  simp only [List.length_append] at most
  by_cases right : size ≤ part.length + after.length
  · refine ⟨part ++ after.take (size - part.length), ⟨before, after.drop (size - part.length), ?_⟩, ?_, ?_⟩
    · simp
    · simp only [List.length_append, List.length_take]
      omega
    · exact List.sublist_append_left _ _
  · refine ⟨before.drop (before.length + part.length + after.length - size) ++ part ++ after,
      ⟨before.take (before.length + part.length + after.length - size), [], ?_⟩, ?_, ?_⟩
    · simp only [List.append_nil, ← List.append_assoc, List.take_append_drop]
    · simp only [List.length_append, List.length_drop]
      omega
    · exact (List.sublist_append_right _ _).trans (List.sublist_append_left _ _)

theorem beginningPart {us cs : List Char} (part : us.Sublist cs) (size : Nat) :
    ∃ vs : List Char, vs.Sublist us ∧ vs.Sublist (cs.take size) ∧
      us.length ≤ vs.length + (cs.length - size) := by
  rw [← List.take_append_drop size cs] at part
  obtain ⟨first, second, rfl, inFirst, inSecond⟩ := List.sublist_append_iff.mp part
  refine ⟨first, List.sublist_append_left _ _, inFirst, ?_⟩
  have lost := inSecond.length_le
  rw [List.length_drop] at lost
  rw [List.length_append]
  omega

section
variable {as bs part us : List Char} {k : Nat}

theorem fittedPart (inside : part <:+: bs) (first : us.Sublist as) (second : us.Sublist part)
    (near : as.length ≤ us.length + k) (other : part.length ≤ us.length + k) (fits : as.length ≤ bs.length) :
    ∃ wide vs : List Char, wide <:+: bs ∧ wide.length = as.length ∧ vs.Sublist as ∧ vs.Sublist wide ∧
      as.length ≤ vs.length + k := by
  by_cases short : part.length ≤ as.length
  · obtain ⟨wide, here, length, holds⟩ := widened inside short fits
    exact ⟨wide, us, here, length, first, second.trans holds, near⟩
  · obtain ⟨vs, inPart, inBeginning, lost⟩ := beginningPart second as.length
    have length : (part.take as.length).length = as.length := by
      rw [List.length_take]
      omega
    have here : part.take as.length <:+: bs := (List.take_prefix as.length part).isInfix.trans inside
    exact ⟨_, vs, here, length, inPart.trans first, inBeginning, by omega⟩

theorem alignmentKept (some : 0 < as.length) (target : 0 < bs.length) (inside : part <:+: bs)
    (first : us.Sublist as) (second : us.Sublist part) (near : as.length ≤ us.length + k)
    (other : part.length ≤ us.length + k) :
    0 ≤ (bestAlignment as bs).kept ∧
      1 - (k : Rat) / (min as.length bs.length : Nat) ≤ (bestAlignment as bs).kept := by
  have window := Share.bestKept (windowsTotal some bs)
  by_cases longer : bs.length < as.length
  · have least := (Share.bestKept (windowsTotal target as)).2.1
    obtain ⟨vs, inText, inBeginning, lost⟩ := beginningPart first bs.length
    have length : (as.take bs.length).length = bs.length := by
      rw [List.length_take]
      omega
    have here : vs.Sublist bs := inText.trans (second.trans inside.sublist)
    have kept := bestWindowKept target (List.take_prefix bs.length as).isInfix length here inBeginning
      (by omega : bs.length ≤ vs.length + k)
    rw [Nat.min_eq_right (Nat.le_of_lt longer), bestAlignment, if_neg (by omega), if_pos longer]
    exact ⟨least, kept⟩
  · obtain ⟨wide, vs, here, length, inText, inWide, lost⟩ :=
      fittedPart inside first second near other (by omega)
    have kept := bestWindowKept some here length inText inWide lost
    rw [Nat.min_eq_left (by omega), bestAlignment]
    split
    · exact ⟨window.2.1, kept⟩
    · have better := (Share.maxKept window.1 (Share.bestKept (windowsTotal target as)).1).2.1
      exact ⟨le_trans window.2.1 better, le_trans kept better⟩

end

theorem survivorsVanish {n k : Nat} : Scale.survivors (n : Rat) (k : Rat) ≤ 0 ↔ n + 2 ≤ 3 * k := by
  rw [survivorsExact, max_le_iff, survivingNone]
  exact and_iff_right (le_refl 0)

/-- The cutoff leaves room: three trigrams for each typo are more than its share of the characters. -/
theorem survivorsKept {n typos k c : Nat} (long : trigramLength ≤ n) (least : typos ≤ k)
    (near : n ≤ c + typos) (some : 0 < c) {x : Rat} (positive : 0 ≤ x)
    (kept : 1 - (typos : Rat) / c ≤ x) : Scale.survivors (n : Rat) (k : Rat) ≤ x := by
  by_cases none : n + 2 ≤ 3 * k
  · exact le_trans (survivorsVanish.mpr none) positive
  · rw [survivorsExact]
    refine max_le positive ?_
    have room : n + 2 ≤ 3 * c := by
      unfold trigramLength at long
      omega
    have lost : typos * (n + 2) ≤ 3 * k * c :=
      calc typos * (n + 2) ≤ typos * (3 * c) := Nat.mul_le_mul_left typos room
        _ ≤ k * (3 * c) := Nat.mul_le_mul_right (3 * c) least
        _ = 3 * k * c := by rw [Nat.mul_left_comm, Nat.mul_assoc]
    have cast : (0 : Rat) < c := Nat.cast_pos.mpr some
    have share : (typos : Rat) / c ≤ 3 * k / (n + 2) := by
      rw [div_le_div_iff₀ cast (trigramsPositive n)]
      exact_mod_cast lost
    refine le_trans ?_ kept
    rw [survivingLost]
    exact sub_le_sub_left share 1

section
variable {target pattern : String} {typos : Nat}

theorem scorerKept (some : pattern ≠ "") (other : target ≠ "") :
    (Measure.partialRatio.scorer : Scorer Rat) pattern target =
      (bestAlignment (Text.lowerChars pattern.toList) (Text.lowerChars target.toList)).kept := by
  have first : pattern.isEmpty = false := by simpa using some
  have second : target.isEmpty = false := by simpa using other
  simp only [Measure.scorer, first, second, Bool.or_self, Bool.false_eq_true, if_false]
  rfl

theorem scorerEmpty (pattern : String) : (Measure.partialRatio.scorer : Scorer Rat) pattern "" = 0 := by
  have empty : "".isEmpty = true := rfl
  rw [Measure.scorer, empty, Bool.or_true, if_pos rfl]
  rfl

theorem lowerPositive {s : String} (some : s ≠ "") : 0 < (Text.lowerChars s.toList).length := by
  have least := Text.lowerLength s.toList
  have positive : 0 < s.toList.length := List.length_pos_iff.mpr (by simpa using some)
  omega

theorem scoreReached {part : List Char} (long : trigramLength ≤ pattern.length)
    (stands : part <:+: Text.lowerChars target.toList)
    (near : Within typos (Text.lowerChars pattern.toList) part) {k : Nat} (least : typos ≤ k) :
    Scale.atLeast ((Measure.partialRatio.scorer : Scorer Rat) pattern target)
      (Scale.survivors (pattern.length : Rat) (k : Rat)) = true := by
  have some : pattern ≠ "" := by
    rintro rfl
    exact absurd long (by decide)
  obtain ⟨us, first, second, lengths, partLength⟩ := withinCommon near
  have lowered : pattern.length ≤ (Text.lowerChars pattern.toList).length := Text.lowerLength pattern.toList
  refine decide_eq_true ?_
  by_cases empty : target = ""
  · have nothing : part = [] := by
      rw [empty] at stands
      exact List.infix_nil.mp stands
    have void : us.length = 0 := by
      rw [nothing] at second
      rw [List.sublist_nil.mp second, List.length_nil]
    rw [empty, scorerEmpty]
    unfold trigramLength at long
    exact survivorsVanish.mpr (by omega)
  · have targetPositive := lowerPositive empty
    have patternPositive := lowerPositive some
    obtain ⟨positive, kept⟩ := alignmentKept patternPositive targetPositive stands first second lengths partLength
    rw [scorerKept some empty]
    have inTarget : us.length ≤ (Text.lowerChars target.toList).length :=
      (second.trans stands.sublist).length_le
    exact survivorsKept long least (by omega) (by omega) positive kept

theorem typosTolerated {part : List Char} (sized : typos = 0 ∨ 3 ≤ pattern.length)
    (stands : part <:+: (Text.lower target).toList)
    (near : Within typos (Text.lower pattern).toList part) :
    (Matching.matchTerm (Matching.recorded (Measure.partialRatio.scorer : Scorer Rat)) (some target) pattern
      (.int typos)).run.1 = .ok true := by
  rw [Text.lowerToList] at stands near
  by_cases none : typos = 0
  · have planned : (Plan.termOf (.int typos) pattern : Except Fault (TermCheck String Rat)) =
        .ok ⟨pattern, .contains⟩ := Plan.termOk.mpr (.contains (.inr none))
    have same : Text.lowerChars pattern.toList = part := by
      rw [none] at near
      exact withinNone near
    rw [Matching.matchTermAnswer _ planned, Matching.matchesContained _ rfl, Text.containsIgnoringCase,
      (Text.occursInfix _ _).mpr (same ▸ stands)]
  · have long : trigramLength ≤ pattern.length := sized.resolve_left none
    let k := typos + extraTypos pattern.length
    have made : Cutoff.ofLength pattern.length k = .ok (Scale.survivors (pattern.length : Rat) (k : Rat)) := by
      rw [Cutoff.ofLengthSteps long]
      rfl
    have planned : (Plan.termOf (.int typos) pattern : Except Fault (TermCheck String Rat)) =
        .ok ⟨pattern, .similarity (Scale.survivors (pattern.length : Rat) (k : Rat))⟩ :=
      Plan.termOk.mpr (.similarity long none made)
    rw [Matching.matchTermAnswer _ planned, Matching.matchesScored _ rfl]
    exact congrArg Except.ok (scoreReached long stands near (Nat.le_add_right typos _))

theorem insertionTolerated :
    (Matching.matchTerm (Matching.recorded (Measure.partialRatio.scorer : Scorer Rat))
      (some "in the KITCHEEN") "Kitchen" (.int 1)).run.1 = .ok true := by
  have stands : "kitcheen".toList <:+: (Text.lower "in the KITCHEEN").toList :=
    ⟨"in the ".toList, [], by decide +kernel⟩
  have lowered : (Text.lower "Kitchen").toList = "kitche".toList ++ "n".toList := by decide +kernel
  have near : Within 1 (Text.lower "Kitchen").toList "kitcheen".toList := by
    rw [lowered]
    exact .step (.insert _ _ 'e') (.same 0 _)
  exact typosTolerated (.inr (by decide)) stands near

end
end TypoSearch.Similarity
