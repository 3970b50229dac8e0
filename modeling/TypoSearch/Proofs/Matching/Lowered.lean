import TypoSearch.Proofs.Matching
import TypoSearch.Proofs.Similarity.Tolerance
import TypoSearch.Proofs.Text.Lowered

/-! Matching of lowered texts. Containment and every measure see the lowered texts alone, so they cannot tell a
text from its lowered form. A plan can: it counts the characters of a pattern as it is given, and a dotted
capital becomes two characters when it is lowered. -/
namespace TypoSearch
open Similarity (Measure Scorer)
open Number (Binary64)

namespace Text

theorem lowerCharsTwice (s : String) : lowerChars (lower s).toList = lowerChars s.toList := by
  rw [← lowerToList, lowerTwice, lowerToList]

theorem lowerEmpty (s : String) : (lower s).isEmpty = s.isEmpty := by
  have count := lowerCount s
  by_cases empty : s = ""
  · rw [empty]
    rfl
  · have length : s.length ≠ 0 := by simpa using empty
    have some : lower s ≠ "" := by
      intro none
      rw [none, String.length_empty] at count
      omega
    rw [Bool.eq_iff_iff, String.isEmpty_iff, String.isEmpty_iff]
    exact iff_of_false some empty

theorem containsLowered (target pattern : String) :
    containsIgnoringCase (lower target) (lower pattern) = containsIgnoringCase target pattern := by
  rw [containsIgnoringCase, containsIgnoringCase, lowerCharsTwice, lowerCharsTwice]

end Text

section
variable {ν : Type} [Scale ν]

theorem Similarity.Measure.scorerLowered (m : Measure) (pattern target : String) :
    (m.scorer : Scorer ν) (Text.lower pattern) (Text.lower target) = m.scorer pattern target := by
  simp only [Measure.scorer, Text.lowerEmpty, Text.lowerCharsTwice]

namespace Plan

def regimeOf (budget : Value) (length : Nat) : Except Fault (Regime ν) := do
  let typos ← Budget.ofValue budget
  if length < trigramLength || typos = 0 then return .contains
  else
    let cutoff ← Cutoff.ofLength length (typos + extraTypos length)
    return .similarity cutoff

theorem termRegime (budget : Value) (pattern : String) :
    (termOf budget pattern : Except Fault (TermCheck String ν)) =
      (regimeOf budget pattern.length).map (TermCheck.mk pattern) := by
  unfold termOf regimeOf
  cases Budget.ofValue budget with
  | error f => rfl
  | ok typos =>
    by_cases easy : pattern.length < trigramLength ∨ typos = 0
    · have asks : (decide (pattern.length < trigramLength) || decide (typos = 0)) = true := by simpa using easy
      rw [Outcome.okBind, Outcome.okBind, termEasy easy, if_pos asks]
      rfl
    · have asks : (decide (pattern.length < trigramLength) || decide (typos = 0)) ≠ true := by simpa using easy
      rw [Outcome.okBind, Outcome.okBind, termHard (by omega) (by omega), if_neg asks]
      cases (Cutoff.ofLength pattern.length (typos + extraTypos pattern.length) : Except Fault ν) <;> rfl

theorem regimePlanned (budget : Value) (pattern : String) :
    (termOf budget pattern : Except Fault (TermCheck String ν)).map TermCheck.regime =
      regimeOf budget pattern.length := by
  rw [termRegime]
  cases (regimeOf budget pattern.length : Except Fault (Regime ν)) <;> rfl

theorem regimeContains {budget : Value} {length : Nat} (easy : budget = .int 0 ∨ length < trigramLength) :
    (regimeOf budget length : Except Fault (Regime ν)) =
      (Budget.ofValue budget).map fun _ => Regime.contains := by
  unfold regimeOf
  cases settled : Budget.ofValue budget with
  | error f => rfl
  | ok typos =>
    have asks : (decide (length < trigramLength) || decide (typos = 0)) = true := by
      rcases easy with rfl | short
      · cases settled
        simp
      · simp [short]
    rw [Outcome.okBind, if_pos asks]
    rfl

end Plan

namespace Matching
variable (scorer : Scorer ν)

theorem matchTermPlanned (target pattern : String) (budget : Value) :
    (matchTerm (recorded scorer) (some target) pattern budget).run.1 =
      (Plan.regimeOf budget pattern.length).map fun regime =>
        TermCheck.holds scorer ⟨pattern, regime⟩ target := by
  rw [matchTerm, settledRun, Plan.termRegime]
  cases (Plan.regimeOf budget pattern.length : Except Fault (Regime ν)) with
  | error f => rfl
  | ok regime =>
    have answer := termAnswer scorer ⟨pattern, regime⟩ (some target)
    rw [matchesTermHolds] at answer
    exact answer

theorem holdsLowered (m : Measure) (pattern target : String) (regime : Regime ν) :
    TermCheck.holds m.scorer ⟨Text.lower pattern, regime⟩ (Text.lower target) =
      TermCheck.holds m.scorer ⟨pattern, regime⟩ target := by
  cases regime with
  | contains => exact Text.containsLowered target pattern
  | similarity cutoff => exact congrArg (Scale.atLeast · cutoff) (m.scorerLowered pattern target)

theorem holdsLoweredTarget (m : Measure) (pattern target : String) (regime : Regime ν) :
    TermCheck.holds m.scorer ⟨pattern, regime⟩ (Text.lower target) =
      TermCheck.holds m.scorer ⟨pattern, regime⟩ target := by
  rw [← holdsLowered m pattern (Text.lower target), Text.lowerTwice, holdsLowered]

def PlannedAlike (budget : Value) (pattern other : String) : Prop :=
  (Plan.termOf budget pattern : Except Fault (TermCheck String ν)).map TermCheck.regime =
    (Plan.termOf budget other).map TermCheck.regime

theorem plannedLowered {budget : Value} {pattern : String}
    (kept : Text.dottedCapital ∉ pattern.toList ∨ budget = .int 0 ∨
      pattern.length + pattern.toList.count Text.dottedCapital < trigramLength) :
    PlannedAlike (ν := ν) budget (Text.lower pattern) pattern := by
  rw [PlannedAlike, Plan.regimePlanned, Plan.regimePlanned, Text.lowerCount]
  rcases kept with without | none | short
  · rw [List.count_eq_zero.mpr without, Nat.add_zero]
  · rw [Plan.regimeContains (.inl none), Plan.regimeContains (.inl none)]
  · rw [Plan.regimeContains (.inr short), Plan.regimeContains (.inr (by omega))]

/-- Both texts lowered are matched as the given ones are, by what is asked of a pattern of the lowered length.
That length differs from the given one by the dotted capitals. -/
theorem caseIgnored (m : Measure) (target pattern : String) (budget : Value) :
    (matchTerm (recorded (m.scorer : Scorer ν)) (some (Text.lower target)) pattern budget).run.1 =
        (matchTerm (recorded (m.scorer : Scorer ν)) (some target) pattern budget).run.1 ∧
      (matchTerm (recorded (m.scorer : Scorer ν)) (some (Text.lower target)) (Text.lower pattern) budget).run.1 =
        ((Plan.termOf budget (Text.lower pattern)).map fun check : TermCheck String ν =>
          TermCheck.holds m.scorer ⟨pattern, check.regime⟩ target) ∧
      (PlannedAlike (ν := ν) budget (Text.lower pattern) pattern →
        (matchTerm (recorded (m.scorer : Scorer ν)) (some (Text.lower target)) (Text.lower pattern)
          budget).run.1 = (matchTerm (recorded (m.scorer : Scorer ν)) (some target) pattern budget).run.1) ∧
      (Text.dottedCapital ∉ pattern.toList ∨ budget = .int 0 ∨
          pattern.length + pattern.toList.count Text.dottedCapital < trigramLength →
        PlannedAlike (ν := ν) budget (Text.lower pattern) pattern) := by
  refine ⟨?_, ?_, fun alike => ?_, plannedLowered⟩
  · simp only [matchTermPlanned, holdsLoweredTarget]
  · rw [matchTermPlanned, Plan.termRegime]
    simp only [holdsLowered]
    cases (Plan.regimeOf budget (Text.lower pattern).length : Except Fault (Regime ν)) <;> rfl
  · rw [PlannedAlike, Plan.regimePlanned, Plan.regimePlanned] at alike
    rw [matchTermPlanned, matchTermPlanned, alike]
    simp only [holdsLowered]

end Matching
end

namespace Matching

theorem caseIgnoredSigma :
    Text.dottedCapital ∉ "ΟΔΥΣΣΕΑΣ".toList ∧
      PlannedAlike (ν := Binary64) (.int 1) (Text.lower "ΟΔΥΣΣΕΑΣ") "ΟΔΥΣΣΕΑΣ" ∧
      (matchTerm (recorded (Measure.partialRatio.scorer : Scorer Binary64)) (some (Text.lower "ΟΔΥΣΣΕΙΑ"))
        (Text.lower "ΟΔΥΣΣΕΑΣ") (.int 1)).run.1 = .ok true := by
  have without : Text.dottedCapital ∉ "ΟΔΥΣΣΕΑΣ".toList := by decide +kernel
  obtain ⟨_, _, same, alike⟩ := caseIgnored (ν := Binary64) .partialRatio "ΟΔΥΣΣΕΙΑ" "ΟΔΥΣΣΕΑΣ" (.int 1)
  have matched : (matchTerm (recorded (Measure.partialRatio.scorer : Scorer Binary64)) (some "ΟΔΥΣΣΕΙΑ")
      "ΟΔΥΣΣΕΑΣ" (.int 1)).run.1 = .ok true := Outcome.optionOk (by decide +kernel)
  exact ⟨without, alike (.inl without), (same (alike (.inl without))).trans matched⟩

theorem caseDistinguished :
    (matchTerm (recorded (Measure.partialRatio.scorer : Scorer Binary64)) (some "i\u0307") "İİ"
        (.int 1)).run.1 = .ok false ∧
      (matchTerm (recorded (Measure.partialRatio.scorer : Scorer Binary64)) (some (Text.lower "i\u0307"))
        (Text.lower "İİ") (.int 1)).run.1 = .ok true :=
  ⟨Outcome.optionOk (by decide +kernel), Outcome.optionOk (by decide +kernel)⟩

end Matching
end TypoSearch
