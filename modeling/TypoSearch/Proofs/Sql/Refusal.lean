import TypoSearch.Proofs.Matching.ShortCircuit
import TypoSearch.Proofs.Plan.Refusal
import TypoSearch.Proofs.Sql.Clause

/-! Evaluation and compilation refuse the same arguments for the same reason. All that either of them
does after planning succeeds, so the refusal is that of the plan, and neither the values nor the names of
columns have a part in it. The reason names a value, and is lost where that value is an integer too long to be
written out. -/
namespace TypoSearch
open Number (Binary64)
open Similarity (Scorer)

variable {columnLogic termLogic budget : Value} {terms : List String}

theorem Matching.evaluatedError {scorer : Scorer Binary64} {targets : List (Option String)} {f : Fault} :
    (evaluated scorer terms budget termLogic columnLogic targets).1 = .error f ↔
      ∃ g, Plan.Refused columnLogic termLogic budget terms g ∧ f = g.raised := by
  rw [← Plan.columnsOfRefused]
  constructor
  · intro failed
    cases planned : (Plan.columnsOf (ColumnPolicy.ofValues columnLogic termLogic budget) (.ok terms) :
        Except Fault (ColumnSet String Binary64)) with
    | error g =>
      rw [evaluatedRefused scorer planned] at failed
      cases failed
      rfl
    | ok plan =>
      rw [evaluatedPlanned scorer planned] at failed
      cases failed
  · intro refused
    rw [evaluatedRefused scorer refused]

namespace Sql

theorem Clause.ofColumnsError {d : Dialect} {columns : List String} (named : ∀ c ∈ columns, c ≠ "") {f : Fault} :
    ofColumns d (.ok (columns.map Value.text)) (.ok terms) budget termLogic columnLogic = .error f ↔
      ∃ g, Plan.Refused columnLogic termLogic budget terms g ∧ f = g.raised := by
  rw [← Plan.columnsOfRefused]
  constructor
  · intro failed
    cases planned : (Plan.columnsOf (ColumnPolicy.ofValues columnLogic termLogic budget) (.ok terms) :
        Except Fault (ColumnSet String Binary64)) with
    | error g =>
      unfold ofColumns at failed
      rw [planned] at failed
      cases failed
      rfl
    | ok plan =>
      rw [ofColumnsText planned (.inr named)] at failed
      cases failed
  · intro refused
    unfold ofColumns
    rw [refused]
    rfl

/-- Evaluation and compilation fail for the same arguments and with the same fault, which the values and
the columns do not change, and nothing is recorded before; all other arguments pass both. The fault is the one
that names the argument exactly if the argument can be written out. -/
theorem refusedAlike (d : Dialect) (scorer : Scorer Binary64) (targets : List (Option String))
    {columns : List String} (named : ∀ c ∈ columns, c ≠ "") :
    (∀ f, (Matching.evaluated scorer terms budget termLogic columnLogic targets).1 = .error f ↔
      ∃ g, Plan.Refused columnLogic termLogic budget terms g ∧ f = g.raised) ∧
    (∀ f, Clause.ofColumns d (.ok (columns.map Value.text)) (.ok terms) budget termLogic columnLogic =
      .error f ↔ ∃ g, Plan.Refused columnLogic termLogic budget terms g ∧ f = g.raised) ∧
    (∀ g, Plan.Refused columnLogic termLogic budget terms g →
      (Matching.evaluated scorer terms budget termLogic columnLogic targets).2 = []) ∧
    ((∀ g, ¬Plan.Refused columnLogic termLogic budget terms g) →
      (∃ matched, (Matching.evaluated scorer terms budget termLogic columnLogic targets).1 = .ok matched) ∧
      ∃ compiled, Clause.ofColumns d (.ok (columns.map Value.text)) (.ok terms) budget termLogic
        columnLogic = .ok compiled) ∧
    ((∀ f, (Matching.evaluated scorer terms budget termLogic columnLogic targets).1 = .error f ↔
        Plan.Refused columnLogic termLogic budget terms f) ↔
      ∀ g, Plan.Refused columnLogic termLogic budget terms g → g.isWritable = true) := by
  refine ⟨fun f => Matching.evaluatedError, fun f => Clause.ofColumnsError named, ?_, ?_, ?_⟩
  · intro g refused
    rw [Matching.evaluatedRefused scorer (Plan.refusedPlan refused)]
  · intro accepted
    cases planned : (Plan.columnsOf (ColumnPolicy.ofValues columnLogic termLogic budget) (.ok terms) :
        Except Fault (ColumnSet String Binary64)) with
    | error f =>
      obtain ⟨g, refused, _⟩ := Plan.columnsOfRefused.mp planned
      exact absurd refused (accepted g)
    | ok plan =>
      rw [Matching.evaluatedPlanned scorer planned]
      exact ⟨⟨_, rfl⟩, _, Clause.ofColumnsText planned (.inr named)⟩
  · constructor
    · intro alike g refused
      have reported := (alike g).mpr refused
      have raised : (Matching.evaluated scorer terms budget termLogic columnLogic targets).1 = .error g.raised :=
        Matching.evaluatedError.mpr ⟨g, refused, rfl⟩
      rw [reported, Except.error.injEq] at raised
      exact (Plan.refusedRaised refused).mp raised.symm
    · intro written f
      rw [Matching.evaluatedError]
      constructor
      · rintro ⟨g, refused, rfl⟩
        rwa [Fault.raisedSame (written g refused)]
      · exact fun refused => ⟨f, refused, (Fault.raisedSame (written f refused)).symm⟩

theorem refusedAlikeBeyond :
    (Matching.evaluated (fun _ _ => (1 : Binary64)) ["ab", "abcdef"] (.int Plan.lastBudget) (.text "OR")
      (.text "AND") [none, some "abcdef"]).1 = .error .tooLarge ∧
    (Matching.evaluated (fun _ _ => (1 : Binary64)) ["ab", "abcdef"] (.int Plan.lastBudget) (.text "OR")
      (.text "AND") [none, some "abcdef"]).2 = [] ∧
    Clause.ofColumns .postgres (.ok (["name"].map Value.text)) (.ok ["ab", "abcdef"]) (.int Plan.lastBudget)
      (.text "OR") (.text "AND") = .error .tooLarge := by
  have named : ∀ c ∈ ["name"], c ≠ "" := by decide
  have first : Value.text "AND" = .text Logic.and.word := rfl
  have second : Value.text "OR" = .text Logic.or.word := rfl
  have refused : Plan.Refused (.text "AND") (.text "OR") (.int Plan.lastBudget) ["ab", "abcdef"] .tooLarge :=
    .range first second rfl Plan.lastBudgetPositive (by decide) (by decide) Plan.lastBudgetBeyond
  obtain ⟨evaluation, compilation, record, _⟩ :=
    refusedAlike .postgres (fun _ _ => (1 : Binary64)) [none, some "abcdef"] named
  exact ⟨(evaluation _).mpr ⟨_, refused, rfl⟩, record _ refused, (compilation _).mpr ⟨_, refused, rfl⟩⟩

@[irreducible] def endlessBudget : Int := -(Nat.pow 10 Number.mostDigits : Nat)

theorem endlessNegative : ∀ typos : Nat, Value.int endlessBudget ≠ .int typos := by
  have negative : endlessBudget < 0 := by
    unfold endlessBudget
    generalize Number.mostDigits = digits
    exact Int.neg_neg_of_pos (Int.natCast_pos.mpr (Nat.pow_pos (by decide)))
  intro typos same
  have same := Value.int.inj same
  omega

theorem endlessUnwritten : Number.isWritable endlessBudget = false := by
  unfold endlessBudget Number.isWritable
  rw [Int.natAbs_neg, Int.natAbs_natCast]
  exact decide_eq_false (Nat.lt_irrefl _)

theorem refusedUnnamed :
    Plan.Refused (.text "AND") (.text "OR") (.int endlessBudget) ["ab"] (.budget (.int endlessBudget)) ∧
    (Matching.evaluated (fun _ _ => (1 : Binary64)) ["ab"] (.int endlessBudget) (.text "OR") (.text "AND")
      [some "ab"]).1 = .error .unwritable ∧
    Clause.ofColumns .postgres (.ok (["name"].map Value.text)) (.ok ["ab"]) (.int endlessBudget) (.text "OR")
      (.text "AND") = .error .unwritable ∧
    Fault.unwritable ≠ .budget (.int endlessBudget) := by
  have first : Value.text "AND" = .text Logic.and.word := rfl
  have second : Value.text "OR" = .text Logic.or.word := rfl
  have refused : Plan.Refused (.text "AND") (.text "OR") (.int endlessBudget) ["ab"]
      (.budget (.int endlessBudget)) := .budget first second endlessNegative
  have unwritten : (Fault.budget (.int endlessBudget)).isWritable = false := by
    rw [Fault.isWritable, Fault.shows, List.all_cons, Value.isWritable, endlessUnwritten, Bool.false_and]
  have raised := (Fault.raisedOther unwritten).symm
  exact ⟨refused, Matching.evaluatedError.mpr ⟨_, refused, raised⟩,
    (Clause.ofColumnsError (by decide)).mpr ⟨_, refused, raised⟩, nofun⟩

end Sql
end TypoSearch
