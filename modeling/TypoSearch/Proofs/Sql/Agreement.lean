import TypoSearch.Proofs.Number.Reading
import TypoSearch.Proofs.Sql.Clause
import TypoSearch.Proofs.Sql.Evaluation

/-! Evaluation and compilation agree. An absent value is no match for the one and unknown to the other,
so both agree on what is true wherever there is something to check. -/
namespace TypoSearch.Sql
open Number (Binary64)
open Similarity (Scorer)
open Matching (matchesTerm matchesTerms matchesColumns)

namespace Predicate
variable (scorer : Scorer Binary64) (row : String → Option String)

theorem joinedTrue (l : Logic) (vs : List (Option Bool)) :
    joined l vs = some true ↔ l.join (vs.map (· == some true)) = true := by
  have known (v : Option Bool) : v = some true ↔ v ≠ some false ∧ v ≠ none := by
    rcases v with _ | _ | _ <;> simp
  cases l with
  | or =>
    simp only [joined, Logic.neutral, Logic.join, Bool.not_false, List.contains_iff_mem, List.any_map,
      List.any_eq_true, Function.comp_apply, id, beq_iff_eq, exists_eq_right]
    split
    · simp [*]
    · split <;> simp [*]
  | and =>
    simp only [joined, Logic.neutral, Logic.join, Bool.not_true, List.contains_iff_mem, List.all_map,
      List.all_eq_true, Function.comp_apply, id, beq_iff_eq]
    constructor
    · intro same v member
      rw [known]
      constructor
      · rintro rfl
        simp [member] at same
      · rintro rfl
        simp [member] at same
    · intro all
      have noFalse : some false ∉ vs := fun member => by simpa using all _ member
      have noNone : none ∉ vs := fun member => by simpa using all _ member
      simp [noFalse, noNone]

theorem joinedKnown (l : Logic) (bs : List Bool) : joined l (bs.map some) = some (l.join bs) := by
  cases l with
  | and => cases deciding : bs.contains false <;> simp_all [joined, Logic.neutral, Logic.join]
  | or => cases deciding : bs.contains true <;> simp_all [joined, Logic.neutral, Logic.join]

theorem joinedUnknown (l : Logic) {vs : List (Option Bool)} (members : vs ≠ [])
    (unknown : ∀ v ∈ vs, v = none) : joined l vs = none := by
  obtain ⟨v, rest, rfl⟩ := List.exists_cons_of_ne_nil members
  have noDeciding : ¬(v :: rest).contains (some !l.neutral) = true := by
    rw [List.contains_iff_mem]
    exact fun member => by simpa using unknown _ member
  have here : (v :: rest).contains none = true := by
    rw [unknown v List.mem_cons_self]
    simp
  rw [joined, if_neg noDeciding, if_pos here]

theorem ofCheckEval (c : TermCheck String Binary64) (column : String) :
    (ofCheck column c).eval scorer (.plain row) =
      (row column).map fun target => matchesTerm scorer c (some target) := by
  obtain ⟨pattern, regime⟩ := c
  cases regime with
  | contains =>
    rw [ofCheck, eval]
    rfl
  | similarity cutoff =>
    rw [ofCheck, eval]
    rfl

theorem ofTermSetEval {plan : TermSet String Binary64} (hasTerms : plan.checks ≠ []) (column : String) :
    (ofTermSet plan column).eval scorer (.plain row) =
      (row column).map fun target => matchesTerms scorer plan (some target) := by
  have terms : ¬plan.checks.isEmpty = true := by simpa using hasTerms
  rw [ofTermSet, if_neg terms, eval, evalsMap, List.map_map]
  have each : ∀ c ∈ plan.checks, (eval scorer (.plain row) ∘ ofCheck column) c =
      (row column).map fun target => matchesTerm scorer c (some target) :=
    fun c _ => ofCheckEval scorer row c column
  rw [List.map_congr_left each]
  cases found : row column with
  | none => exact joinedUnknown plan.logic (by simpa using hasTerms) (by simp)
  | some target =>
    rw [Option.map_some, Matching.matchesTermsSome, ← joinedKnown, List.map_map]
    rfl

theorem ofTermSetEmpty {plan : TermSet String Binary64} (noTerms : plan.checks = []) (column : String) :
    (ofTermSet plan column).eval scorer (.plain row) = some plan.logic.neutral := by
  rw [ofTermSet, noTerms, List.isEmpty_nil, if_pos rfl]
  rfl

section
variable {plan : ColumnSet String Binary64} {columns : List String}

theorem ofColumnSetNone (plan : ColumnSet String Binary64) :
    (ofColumnSet plan []).eval scorer (.plain row) = some plan.logic.neutral := by
  rw [ofColumnSet, List.isEmpty_nil, if_pos rfl]
  rfl

theorem ofColumnSetJoined (plan : ColumnSet String Binary64) (columns : List String) :
    (ofColumnSet plan columns).eval scorer (.plain row) =
      joined plan.logic (columns.map fun column =>
        (ofTermSet plan.termSet column).eval scorer (.plain row)) := by
  cases columns with
  | nil =>
    rw [ofColumnSetNone]
    exact (joinedKnown plan.logic []).symm
  | cons column columns =>
    rw [ofColumnSet, List.isEmpty_cons, if_neg Bool.false_ne_true, eval, evalsMap, List.map_map]
    rfl

theorem ofColumnSetTrue (shown : plan.termSet.checks ≠ [] ∨ ∀ c ∈ columns, row c ≠ none) :
    (ofColumnSet plan columns).eval scorer (.plain row) = some true ↔
      matchesColumns scorer plan (columns.map row) = true := by
  rw [ofColumnSetJoined, joinedTrue, Matching.matchesColumnsJoin, List.map_map, List.map_map]
  have each : ∀ c ∈ columns,
      ((· == some true) ∘ fun column =>
        (ofTermSet plan.termSet column).eval scorer (.plain row)) c =
      (matchesTerms scorer plan.termSet ∘ row) c := by
    intro c member
    simp only [Function.comp_apply]
    by_cases hasTerms : plan.termSet.checks = []
    · rw [ofTermSetEmpty scorer row hasTerms]
      cases found : row c with
      | none => exact absurd found (shown.resolve_left (not_not_intro hasTerms) c member)
      | some target =>
        rw [Matching.matchesTermsSome, hasTerms]
        cases plan.termSet.logic <;> rfl
    · rw [ofTermSetEval scorer row hasTerms]
      cases row c with
      | none => rfl
      | some target => simp
  rw [List.map_congr_left each]

theorem ofColumnSetEmpty (noTerms : plan.termSet.checks = []) :
    (ofColumnSet plan columns).eval scorer (.plain row) =
      some (if columns = [] then plan.logic.neutral else plan.termSet.logic.neutral) := by
  cases columns with
  | nil => rw [ofColumnSetNone, if_pos rfl]
  | cons column columns =>
    have each : ∀ c ∈ column :: columns,
        (ofTermSet plan.termSet c).eval scorer (.plain row) =
          some plan.termSet.logic.neutral := fun c _ => ofTermSetEmpty scorer row noTerms c
    have same (b : Bool) : plan.logic.join ((column :: columns).map fun _ => b) = b := by
      cases plan.logic <;> cases b <;> simp [Logic.join]
    rw [ofColumnSetJoined, List.map_congr_left each, if_neg (List.cons_ne_nil _ _)]
    have known := joinedKnown plan.logic ((column :: columns).map fun _ => plan.termSet.logic.neutral)
    rw [List.map_map, same] at known
    exact known

end

theorem ofColumnSetAlike {b c : Binding} (plan : ColumnSet String Binary64) (columns : List String)
    (column : b.column = c.column)
    (number : ∀ t ∈ plan.termSet.checks, ∀ x, t.regime = .similarity x → b.number x = c.number x)
    (constant : plan.termSet.checks = [] ∨ columns = [] → ∀ value, b.constant value = c.constant value) :
    (ofColumnSet plan columns).Alike b c := by
  refine ofColumnSetEach (fun none value => .constant (constant none value)) (fun _ _ => .group)
    fun name t inside => ?_
  have same := number t inside
  obtain ⟨pattern, regime⟩ := t
  cases regime with
  | contains => exact .contains (congrFun column name)
  | similarity cutoff => exact .similar (congrFun column name) (same cutoff rfl)

end Predicate

def CutoffsKept (reading : String → Binary64) (plan : ColumnSet String Binary64) : Prop :=
  ∀ c ∈ plan.termSet.checks, ∀ x, c.regime = .similarity x → reading x.plainText = x

/-- A cutoff is the result of a division, so numerals that are read as doubles give it back. -/
theorem cutoffsRead {policy : ColumnPolicy} {terms : List String} {plan : ColumnSet String Binary64}
    (planned : Plan.Planned policy terms plan) : CutoffsKept Number.numeral plan := by
  intro c member x same
  obtain ⟨_, _, asks⟩ := Plan.plannedAsks planned member
  cases asks with
  | contains _ => cases same
  | similarity long _ made =>
    cases same
    obtain ⟨n, k, _, _, rfl⟩ := Cutoff.ofLengthOk long made
    rw [Cutoff.survivorsEq]
    exact Number.numeralKept (Binary64.clampDouble (Binary64.divDouble _ _))

namespace Predicate
variable {reading : String → Binary64} (scorer : Scorer Binary64) (row : String → Option String)
variable {plan : ColumnSet String Binary64} (columns : List String)

theorem evalKept (kept : CutoffsKept reading plan) :
    (ofColumnSet plan columns).eval scorer ⟨row, some, fun x => reading x.plainText⟩ =
      (ofColumnSet plan columns).eval scorer (.plain row) :=
  evalAlike scorer (ofColumnSetAlike plan columns rfl kept fun _ _ => rfl)

theorem expressionKept (proper : (ofColumnSet plan columns).Proper) (kept : CutoffsKept reading plan) :
    (ofColumnSet plan columns).expression.eval scorer reading row =
      some (.ofTruth ((ofColumnSet plan columns).eval scorer (.plain row))) := by
  rw [expressionEval scorer row proper, evalKept scorer row columns kept]

end Predicate

section
variable {query budget termLogic columnLogic : Value} {terms columns : List String}
variable {plan : ColumnSet String Binary64}

theorem ofColumnsQueryAsked (d : Dialect) (columns : Except Fault (List Value))
    (asked : Query.termsOf query = .ok terms) :
    Clause.ofColumnsQuery d columns query budget termLogic columnLogic =
      Clause.ofColumns d columns (.ok terms) budget termLogic columnLogic := by
  unfold Clause.ofColumnsQuery
  rw [asked]
  rfl

/-- The compiled text, read by the rules of the engine, has a value on every row. It is true of the rows
that evaluation matches; an absent value makes a difference only where there are no terms, and then the
value does not depend on the row. -/
theorem compiledAgrees (scorer : Scorer Binary64) (row : String → Option String)
    (reading : String → Binary64) (asked : Query.termsOf query = .ok terms)
    (planned : Plan.columnsOf (ColumnPolicy.ofValues columnLogic termLogic budget) (.ok terms) = .ok plan)
    (named : ∀ c ∈ columns, c ≠ "")
    (kept : CutoffsKept reading plan) :
    ∃ compiled ts e v,
      Clause.ofColumnsQuery .sqlite (.ok (columns.map Value.text)) query budget termLogic columnLogic =
        .ok compiled ∧
      tokens Dialect.sqlite.quoting compiled.text.toList = some ts ∧ parse ts = some e ∧
      e.eval scorer reading row = some (.ofTruth v) ∧
      (terms ≠ [] ∨ (∀ c ∈ columns, row c ≠ none) →
        (v = some true ↔ (Matching.matchColumnsQuery (π := String) (Matching.recorded scorer) query budget
          termLogic columnLogic (.ok (columns.map row))).run.1 = .ok true)) ∧
      (terms = [] → v = some (if columns = [] then plan.logic.neutral else plan.termSet.logic.neutral)) := by
  obtain ⟨policy, _, made⟩ := Plan.columnsOfOk.mp planned
  have proper := Predicate.ofColumnSetProper (Plan.plannedBounded made) columns
  obtain ⟨ts, read, parsed⟩ := predicateParsed proper
  have value := Predicate.expressionKept scorer row columns proper kept
  have compiled := Clause.ofColumnsText (d := .sqlite) planned (.inr named)
  rw [← ofColumnsQueryAsked _ _ asked] at compiled
  refine ⟨_, ts, _, _, compiled, read, parsed, value, ?_, ?_⟩
  · intro shown
    have shown := shown.imp_left (mt (Plan.plannedEmpty made).mp)
    rw [Matching.columnsQueryAnswer scorer asked planned, Except.ok.injEq]
    exact Predicate.ofColumnSetTrue scorer row shown
  · intro noTerms
    exact Predicate.ofColumnSetEmpty scorer row ((Plan.plannedEmpty made).mpr noTerms)

end

theorem compiledAgreesAbsent :
    ∃ compiled ts e v,
      Clause.ofColumnsQuery .sqlite (.ok (["first", "last \"name\""].map Value.text)) (.text " Anna  Bo")
        (.int 1) (.text "OR") (.text "AND") = .ok compiled ∧
      tokens Dialect.sqlite.quoting compiled.text.toList = some ts ∧ parse ts = some e ∧
      e.eval Similarity.Measure.partialRatio.scorer (fun s => (Number.readBinary64? s).getD .nan)
        (fun column => if column = "first" then some "Annah" else none) = some (.ofTruth v) ∧
      (v = some true ↔ (Matching.matchColumnsQuery (π := String)
        (Matching.recorded (Similarity.Measure.partialRatio.scorer : Scorer Binary64)) (.text " Anna  Bo")
        (.int 1) (.text "OR") (.text "AND") (.ok [some "Annah", none])).run.1 = .ok true) := by
  have asked : Query.termsOf (.text " Anna  Bo") = .ok ["Anna", "Bo"] := Outcome.optionOk (by decide)
  have planned : Plan.columnsOf (ColumnPolicy.ofValues (.text "AND") (.text "OR") (.int 1))
      (.ok ["Anna", "Bo"]) = .ok (⟨.and, ⟨.or, [⟨"Anna", .similarity (.finite false (2 ^ 1073))⟩,
        ⟨"Bo", .contains⟩]⟩⟩ : ColumnSet String Binary64) := Outcome.optionOk (by decide +kernel)
  have named : ∀ c ∈ ["first", "last \"name\""], c ≠ "" := by decide
  obtain ⟨_, _, made⟩ := Plan.columnsOfOk.mp planned
  obtain ⟨compiled, ts, e, v, made, read, parsed, value, agrees, _⟩ :=
    compiledAgrees Similarity.Measure.partialRatio.scorer
      (fun column => if column = "first" then some "Annah" else none)
      (fun s => (Number.readBinary64? s).getD .nan) asked planned named (cutoffsRead made)
  exact ⟨compiled, ts, e, v, made, read, parsed, value, agrees (.inl (by decide))⟩

end TypoSearch.Sql
