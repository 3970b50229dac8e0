import TypoSearch.Proofs.Plan.Terms

/-! Which arguments of a search are refused, and how. The refusals stand in one order: the logic across
columns, the logic of terms, the budget, and last the numbers that do not convert. Where several
arguments are wrong, the first in this order is blamed. -/
namespace TypoSearch
open Number (Binary64)
open Outcome (bindError mapFailed)

namespace Logic

theorem ofValueRefused {argument : String} {v : Value} {f : Fault} :
    ofValue argument v = .error f ↔
      f = (Fault.logic argument v).raised ∧ ∀ l : Logic, v ≠ .text l.word := by
  constructor
  · intro refused
    refine ⟨?_, fun l same => ?_⟩
    · unfold ofValue at refused
      split at refused
      · split at refused
        · cases refused
        · exact Fault.raiseError.mp refused
      · exact Fault.raiseError.mp refused
    · rw [ofValueOk.mpr same] at refused
      cases refused
  · rintro ⟨rfl, unknown⟩
    unfold ofValue
    split
    · rename_i s
      split
      · rename_i l read
        exact absurd (congrArg Value.text (ofWordSome.mp read)) (unknown l)
      · rfl
    · rfl

end Logic

namespace Budget

theorem ofValueRefused {v : Value} {f : Fault} :
    ofValue v = .error f ↔ f = (Fault.budget v).raised ∧ ∀ typos : Nat, v ≠ .int typos := by
  constructor
  · intro refused
    refine ⟨?_, fun typos same => ?_⟩
    · unfold ofValue at refused
      split at refused
      · cases refused
      · exact Fault.raiseError.mp refused
    · rw [ofValueOk.mpr same] at refused
      cases refused
  · rintro ⟨rfl, unknown⟩
    unfold ofValue
    split
    · rename_i typos
      exact absurd rfl (unknown typos)
    · rfl

end Budget

namespace Plan

inductive Refused (columnLogic termLogic budget : Value) (terms : List String) : Fault → Prop where
  | columnLogic (unknown : ∀ l : Logic, columnLogic ≠ .text l.word) :
      Refused columnLogic termLogic budget terms (.logic "column_logic" columnLogic)
  | termLogic {columns : Logic} (first : columnLogic = .text columns.word)
      (unknown : ∀ l : Logic, termLogic ≠ .text l.word) :
      Refused columnLogic termLogic budget terms (.logic "term_logic" termLogic)
  | budget {columns l : Logic} (first : columnLogic = .text columns.word) (second : termLogic = .text l.word)
      (unknown : ∀ typos : Nat, budget ≠ .int typos) :
      Refused columnLogic termLogic budget terms (.budget budget)
  | range {columns l : Logic} {typos : Nat} {term : String} (first : columnLogic = .text columns.word)
      (second : termLogic = .text l.word) (third : budget = .int typos) (positive : 0 < typos)
      (member : term ∈ terms) (long : 3 ≤ term.length) (beyond : ¬Converts typos term) :
      Refused columnLogic termLogic budget terms .tooLarge

theorem termRefused {typos : Nat} {pattern : String} {f : Fault} :
    (term typos pattern : Except Fault (TermCheck String Binary64)) = .error f ↔
      f = .tooLarge ∧ 0 < typos ∧ 3 ≤ pattern.length ∧ ¬Converts typos pattern := by
  constructor
  · intro refused
    have long : trigramLength ≤ pattern.length := by
      by_contra short
      rw [termEasy (.inl (Nat.lt_of_not_le short))] at refused
      cases refused
    have nonzero : typos ≠ 0 := by
      rintro rfl
      rw [termEasy (.inr rfl)] at refused
      cases refused
    have beyond : ¬Converts typos pattern := by
      intro converts
      obtain ⟨c, asks⟩ := asksConverted converts
      rw [termOk.mpr asks] at refused
      cases refused
    rw [termOverflow long nonzero beyond] at refused
    exact ⟨(Except.error.inj refused).symm, Nat.pos_of_ne_zero nonzero, long, beyond⟩
  · rintro ⟨rfl, positive, long, beyond⟩
    exact termOverflow long (Nat.ne_of_gt positive) beyond

theorem columnsRefused {policy : ColumnPolicy} {patterns : List String} {f : Fault} :
    (columns policy patterns : Except Fault (ColumnSet String Binary64)) = .error f ↔
      f = .tooLarge ∧ 0 < policy.terms.typos ∧
        ∃ p ∈ patterns, 3 ≤ p.length ∧ ¬Converts policy.terms.typos p := by
  constructor
  · intro refused
    unfold columns terms at refused
    rcases bindError.mp refused with inner | ⟨_, _, last⟩
    · rcases bindError.mp inner with checks | ⟨_, _, last⟩
      · obtain ⟨p, member, failed⟩ := mapFailed checks
        obtain ⟨same, positive, long, beyond⟩ := termRefused.mp failed
        exact ⟨same, positive, p, member, long, beyond⟩
      · cases last
    · cases last
  · rintro ⟨rfl, positive, p, member, long, beyond⟩
    exact columnsOverflow member long (Nat.ne_of_gt positive) beyond

theorem policyRefused {columnLogic termLogic budget : Value} {f : Fault} (terms : List String)
    (refused : ColumnPolicy.ofValues columnLogic termLogic budget = .error f) :
    ∃ g, Refused columnLogic termLogic budget terms g ∧ f = g.raised := by
  unfold ColumnPolicy.ofValues Policy.ofValues at refused
  rcases bindError.mp refused with columns | ⟨l, columns, rest⟩
  · obtain ⟨same, unknown⟩ := Logic.ofValueRefused.mp columns
    exact ⟨_, .columnLogic unknown, same⟩
  · have first := Logic.ofValueOk.mp columns
    rcases bindError.mp rest with inner | ⟨_, _, last⟩
    · rcases bindError.mp inner with logic | ⟨m, logic, rest⟩
      · obtain ⟨same, unknown⟩ := Logic.ofValueRefused.mp logic
        exact ⟨_, .termLogic first unknown, same⟩
      · rcases bindError.mp rest with typos | ⟨_, _, last⟩
        · obtain ⟨same, unknown⟩ := Budget.ofValueRefused.mp typos
          exact ⟨_, .budget first (Logic.ofValueOk.mp logic) unknown, same⟩
        · cases last
    · cases last

section
variable {columnLogic termLogic budget : Value} {terms : List String} {f : Fault}

theorem refusedPlan (refused : Refused columnLogic termLogic budget terms f) :
    (columnsOf (ColumnPolicy.ofValues columnLogic termLogic budget) (.ok terms) :
      Except Fault (ColumnSet String Binary64)) = .error f.raised := by
  cases refused with
  | columnLogic unknown =>
    unfold columnsOf ColumnPolicy.ofValues
    rw [Logic.ofValueRefused.mpr ⟨rfl, unknown⟩]
    rfl
  | termLogic first unknown =>
    unfold columnsOf ColumnPolicy.ofValues Policy.ofValues
    rw [Logic.ofValueOk.mpr first, Logic.ofValueRefused.mpr ⟨rfl, unknown⟩]
    rfl
  | budget first second unknown =>
    unfold columnsOf ColumnPolicy.ofValues Policy.ofValues
    rw [Logic.ofValueOk.mpr first, Logic.ofValueOk.mpr second, Budget.ofValueRefused.mpr ⟨rfl, unknown⟩]
    rfl
  | @range columns l typos term first second third positive member long beyond =>
    have policy : ColumnPolicy.ofValues columnLogic termLogic budget = .ok ⟨columns, ⟨l, typos⟩⟩ :=
      ColumnPolicy.ofValuesOk.mpr ⟨first, second, third⟩
    rw [columnsOf, policy]
    exact columnsRefused.mpr ⟨rfl, positive, term, member, long, beyond⟩

theorem columnsOfRefused :
    (columnsOf (ColumnPolicy.ofValues columnLogic termLogic budget) (.ok terms) :
      Except Fault (ColumnSet String Binary64)) = .error f ↔
        ∃ g, Refused columnLogic termLogic budget terms g ∧ f = g.raised := by
  refine ⟨fun failed => ?_, ?_⟩
  swap
  · rintro ⟨g, refused, rfl⟩
    exact refusedPlan refused
  unfold columnsOf at failed
  rcases bindError.mp failed with policy | ⟨policy, settled, made⟩
  · exact policyRefused terms policy
  · obtain ⟨first, second, third⟩ := ColumnPolicy.ofValuesOk.mp settled
    obtain ⟨rfl, positive, p, member, long, beyond⟩ := columnsRefused.mp made
    exact ⟨.tooLarge, .range first second third positive member long beyond, rfl⟩

theorem refusedRaised (refused : Refused columnLogic termLogic budget terms f) :
    f.raised = f ↔ f.isWritable = true := by
  refine ⟨fun same => ?_, Fault.raisedSame⟩
  cases written : f.isWritable with
  | true => rfl
  | false =>
    rw [Fault.raisedOther written] at same
    subst same
    cases refused

end
@[irreducible] def lastBudget : Nat := (1 <<< 1024) - (1 <<< 970) - 1

theorem lastBudgetPositive : 0 < lastBudget := by decide +kernel

theorem lastBudgetConverts : (Binary64.ofInt? lastBudget).isSome := by decide +kernel

theorem lastBudgetBeyond : ¬Converts lastBudget "abcdef" := by
  unfold Converts
  decide +kernel

end Plan
end TypoSearch
