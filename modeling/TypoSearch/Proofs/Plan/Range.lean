import TypoSearch.Proofs.Number.Range
import TypoSearch.Proofs.Plan.Refusal

/-! Which lengths and budgets have a cutoff. The checks admit every natural number, and the formula converts
both to doubles unless the length is below three: so there is a cutoff, and it is a number from zero to one,
exactly where both convert. All others end in the failure of the conversion. -/
namespace TypoSearch
open Number (Binary64)
open Number.Binary64 (firstBeyond ofIntWithin)
open Outcome (decided)

namespace Cutoff

def Formed (length typos : Nat) : Prop :=
  length < trigramLength ∨ length < firstBeyond ∧ typos < firstBeyond

theorem shortShare (typos : Nat) : IsShare (if 1 ≤ typos then Scale.zero else Scale.one : Binary64) := by
  split
  · exact ⟨0, Nat.zero_le _, by decide +kernel⟩
  · exact ⟨Binary64.unit, Nat.le_refl _, by decide +kernel⟩

theorem ofLengthFormed {length typos : Nat} (formed : Formed length typos) :
    ∃ x : Binary64, ofLength length typos = .ok x ∧ IsShare x := by
  rcases Nat.lt_or_ge length trigramLength with short | long
  · exact ⟨_, by rw [ofLength, if_pos short], shortShare typos⟩
  · obtain ⟨lengthIn, typosIn⟩ := formed.resolve_left (Nat.not_lt.mpr long)
    obtain ⟨share, made⟩ :=
      ofLengthConverted long ((ofIntWithin length).mpr lengthIn) ((ofIntWithin typos).mpr typosIn)
    exact ⟨share, made, ofLengthShare long made⟩

theorem ofLengthUnformed {length typos : Nat} (unformed : ¬Formed length typos) :
    (ofLength length typos : Except Fault Binary64) = .error .tooLarge := by
  simp only [Formed, not_or, Nat.not_lt] at unformed
  obtain ⟨long, beyond⟩ := unformed
  rw [← ofIntWithin, ← ofIntWithin] at beyond
  exact ofLengthOverflow long beyond

theorem ofValuesNatural (length typos : Nat) :
    (ofValues (.int length) (.int typos) : Except Fault Binary64) = ofLength length typos := rfl

end Cutoff

namespace Plan

def Plannable (typos : Nat) (pattern : String) : Prop :=
  typos = 0 ∨ Cutoff.Formed pattern.length (typos + extraTypos pattern.length)

theorem termOfNatural (typos : Nat) (pattern : String) :
    (termOf (.int typos) pattern : Except Fault (TermCheck String Binary64)) = term typos pattern := rfl

section
variable {typos : Nat} {pattern : String}

theorem convertsWithin : Converts typos pattern ↔
    pattern.length < firstBeyond ∧ typos + extraTypos pattern.length < firstBeyond := by
  rw [Converts, ofIntWithin, ofIntWithin]

theorem plannableAsks (plannable : Plannable typos pattern) :
    ∃ check : TermCheck String Binary64, Asks typos pattern check := by
  rcases plannable with zero | short | within
  · exact ⟨_, .contains (.inr zero)⟩
  · exact ⟨_, .contains (.inl short)⟩
  · exact asksConverted (convertsWithin.mpr within)

theorem termPlannable (plannable : Plannable typos pattern) : ∃ check : TermCheck String Binary64,
    term typos pattern = .ok check ∧ check.pattern = pattern ∧ Bounded check := by
  obtain ⟨check, asks⟩ := plannableAsks plannable
  exact ⟨check, termOk.mpr asks, asksPattern asks, asksBounded asks⟩

theorem termUnplannable (unplannable : ¬Plannable typos pattern) :
    (term typos pattern : Except Fault (TermCheck String Binary64)) = .error .tooLarge := by
  simp only [Plannable, Cutoff.Formed, not_or, Nat.not_lt] at unplannable
  obtain ⟨nonzero, long, beyond⟩ := unplannable
  exact termOverflow long nonzero (mt convertsWithin.mp beyond)

end

/-- The lengths and budgets that have a cutoff, which is a number from zero to one, and the terms that are
planned. The failure of all others is that of the conversion. -/
theorem admittedPlanned (length typos : Nat) (pattern : String) :
    ((∃ share : Binary64, Cutoff.ofValues (.int length) (.int typos) = .ok share ∧ Cutoff.IsShare share) ↔
      Cutoff.Formed length typos) ∧
    ((Cutoff.ofValues (.int length) (.int typos) : Except Fault Binary64) = .error .tooLarge ↔
      ¬Cutoff.Formed length typos) ∧
    ((∃ check : TermCheck String Binary64, termOf (.int typos) pattern = .ok check ∧
        check.pattern = pattern ∧ Bounded check) ↔ Plannable typos pattern) ∧
    ((termOf (.int typos) pattern : Except Fault (TermCheck String Binary64)) = .error .tooLarge ↔
      ¬Plannable typos pattern) := by
  rw [Cutoff.ofValuesNatural, termOfNatural]
  have cutoffs := decided (@Cutoff.ofLengthFormed length typos) Cutoff.ofLengthUnformed
  have checks := decided (@termPlannable typos pattern) termUnplannable
  exact ⟨cutoffs.1, cutoffs.2, checks.1, checks.2⟩

theorem beyondUnformed {length typos : Nat} (long : trigramLength ≤ length) (beyond : firstBeyond ≤ typos) :
    ¬Cutoff.Formed length typos := by
  rintro (short | ⟨_, within⟩)
  · exact absurd short (Nat.not_lt.mpr long)
  · exact absurd within (Nat.not_lt.mpr beyond)

theorem admittedOverflows :
    Cutoff.lengthOf (.int 3) = .ok 3 ∧ Budget.ofValue (.int (1 <<< 1024 : Nat)) = .ok (1 <<< 1024) ∧
    (Cutoff.ofValues (.int 3) (.int (1 <<< 1024 : Nat)) : Except Fault Binary64) = .error .tooLarge ∧
    (termOf (.int (1 <<< 1024 : Nat)) "abc" : Except Fault (TermCheck String Binary64)) = .error .tooLarge := by
  have beyond : firstBeyond ≤ 1 <<< 1024 := by
    unfold firstBeyond
    exact Nat.sub_le _ _
  have nonzero : 0 < 1 <<< 1024 := by
    rw [Nat.one_shiftLeft]
    exact Nat.two_pow_pos 1024
  generalize 1 <<< 1024 = typos at beyond nonzero ⊢
  have unformed : ¬Cutoff.Formed 3 typos := beyondUnformed (Nat.le_refl _) beyond
  have unplannable : ¬Plannable typos "abc" := by
    rintro (zero | formed)
    · exact Nat.ne_of_gt nonzero zero
    · exact beyondUnformed (by decide) (Nat.le_add_right_of_le beyond) formed
  exact ⟨rfl, rfl, (Cutoff.ofValuesNatural 3 typos).trans (Cutoff.ofLengthUnformed unformed),
    (termOfNatural typos "abc").trans (termUnplannable unplannable)⟩

end Plan
end TypoSearch
