import TypoSearch.Proofs.Cli.Run

/-! One value is matched, and one column compiled, by itself. Both ways the logic across columns has nothing to
join, so the shorter path gives the answer, the record and the faults of the longer one, and its text is the longer
one's without the outer parentheses. -/
namespace TypoSearch
open Number (Binary64)
open Similarity (Scorer)

/-! ## Plans -/

section
variable {ν : Type} [Scale ν]

theorem Plan.columnsOfTerms (argument : String) (l k : Logic) (budget : Value)
    (patterns : Except Fault (List String)) :
    (columnsOf (ColumnPolicy.ofValues (.text k.word) (.text l.word) budget) patterns :
      Except Fault (ColumnSet String ν)) =
    (termsOf (Policy.ofValues argument (.text l.word) budget) patterns).map (ColumnSet.mk k) := by
  have words (argument : String) (l : Logic) : Logic.ofValue argument (.text l.word) = .ok l :=
    Logic.ofValueOk.mpr rfl
  simp only [columnsOf, termsOf, ColumnPolicy.ofValues, Policy.ofValues, words, Outcome.okBind]
  cases Budget.ofValue budget with
  | error f => rfl
  | ok typos => cases patterns <;> rfl

theorem Plan.termsOfColumns (argument : String) {l k : Logic} {budget : Value}
    {patterns : Except Fault (List String)} {plan : ColumnSet String ν}
    (planned : columnsOf (ColumnPolicy.ofValues (.text k.word) (.text l.word) budget) patterns = .ok plan) :
    termsOf (Policy.ofValues argument (.text l.word) budget) patterns = .ok plan.termSet := by
  rw [columnsOfTerms argument] at planned
  cases terms : (termsOf (Policy.ofValues argument (.text l.word) budget) patterns :
      Except Fault (TermSet String ν)) with
  | error f =>
    rw [terms] at planned
    cases planned
  | ok plan =>
    rw [terms] at planned
    cases planned
    rfl

/-! ## Matching -/

namespace Matching
variable (scorer : Scorer ν)

theorem joinOne (l : Logic) (answer : Bool) : l.join [answer] = answer := by
  cases l <;> cases answer <;> rfl

theorem visitedOne {α : Type} (l : Logic) (answer : α → Bool) (x : α) : l.visited answer [x] = [x] := by
  rw [Logic.visitedCons]
  split <;> rfl

theorem columnSetOne (k : Logic) (plan : TermSet String ν) (target : Option String) :
    (columnSet (recorded scorer) ⟨k, plan⟩ [target]).run = (termSet (recorded scorer) plan target).run := by
  have answer : (ColumnSet.mk k plan).holds scorer [target] = plan.holds scorer target := joinOne k _
  have record : (ColumnSet.mk k plan).events scorer [target] = plan.events scorer target := by
    rw [ColumnSet.events, visitedOne, List.flatMap_singleton]
  rw [leavesRun (columnSetLeaves scorer _ _), leavesRun (termSetLeaves scorer _ _), answer, record]

theorem matchTarget (query budget : Value) (l k : Logic) (target : Option String) :
    (matchQuery (π := String) (recorded scorer) target query budget (.text l.word)).run =
      (matchColumnsQuery (π := String) (recorded scorer) query budget (.text l.word) (.text k.word)
        (.ok [target])).run := by
  rw [matchQuery, matchColumnsQuery, settledRun, settledRun]
  cases (queryPatterns query : Except Fault (List String)) with
  | error f => rfl
  | ok patterns =>
    dsimp only
    rw [matchTerms, matchColumns, settledRun, settledRun, Plan.columnsOfTerms "match_logic"]
    cases (Plan.termsOf (Policy.ofValues "match_logic" (.text l.word) budget) (.ok patterns) :
        Except Fault (TermSet String ν)) with
    | error f => rfl
    | ok plan => exact (columnSetOne scorer k plan target).symm

end Matching
end

/-! ## Clauses -/

namespace Sql

theorem Predicate.textOne (d : Dialect) (l : Logic) (p : Predicate) :
    (group l [p]).text d = "(" ++ p.text d ++ ")" := by
  rw [text, texts, texts, groupText, String.intercalate_singleton]

theorem Clause.ofColumn (d : Dialect) (column query budget : Value) (l k : Logic) :
    (ofColumnsQuery d (.ok [column]) query budget (.text l.word) (.text k.word)).map Compiled.text =
      (ofQuery d column query budget (.text l.word)).map fun text => "(" ++ text ++ ")" := by
  rw [ofColumnsQuery, ofQuery]
  cases Query.termsOf query with
  | error f => rfl
  | ok terms =>
    rw [Outcome.okBind, Outcome.okBind, ofColumns, ofTerms, Plan.columnsOfTerms "match_logic"]
    cases (Plan.termsOf (Policy.ofValues "match_logic" (.text l.word) budget) (.ok terms) :
        Except Fault (TermSet String Binary64)) with
    | error f => rfl
    | ok plan =>
      have one : columnsPredicate d ⟨k, plan⟩ [column] =
          (setPredicate d plan column).map fun p => .group k [p] := by
        rw [columnsPredicate, List.isEmpty_cons, if_neg Bool.false_ne_true, List.mapM_cons, List.mapM_nil]
        cases setPredicate d plan column <;> rfl
      simp only [Except.map, Outcome.okBind, one]
      cases setPredicate d plan column with
      | error f => rfl
      | ok p => exact congrArg Except.ok (Predicate.textOne d k p)

def ReadsAs (scorer : Scorer Binary64) (reading : String → Binary64) (row : String → Option String) (text : String)
    (v : Option Bool) : Prop :=
  ∃ ts e, tokens Dialect.sqlite.quoting text.toList = some ts ∧ parse ts = some e ∧
    e.eval scorer reading row = some (.ofTruth v)

namespace Predicate
variable {reading : String → Binary64} (scorer : Scorer Binary64) (row : String → Option String)

theorem evalOne (b : Binding) (l : Logic) (p : Predicate) : (group l [p]).eval scorer b = p.eval scorer b := by
  have same (v : Option Bool) : joined l [v] = v := by
    cases l <;> rcases v with _ | _ | _ <;> rfl
  rw [eval, evals, evals, same]

variable {plan : ColumnSet String Binary64}

theorem columnsReadAs (bounded : ∀ c ∈ plan.termSet.checks, Plan.Bounded c) (kept : CutoffsKept reading plan)
    (columns : List String) : ReadsAs scorer reading row ((ofColumnSet plan columns).text .sqlite)
      ((ofColumnSet plan columns).eval scorer (.plain row)) := by
  have proper := ofColumnSetProper bounded columns
  obtain ⟨ts, read, parsed⟩ := predicateParsed proper
  exact ⟨ts, _, read, parsed, expressionKept scorer row columns proper kept⟩

theorem columnReadAs (bounded : ∀ c ∈ plan.termSet.checks, Plan.Bounded c) (kept : CutoffsKept reading plan)
    (column : String) : ReadsAs scorer reading row ((ofTermSet plan.termSet column).text .sqlite)
      ((ofColumnSet plan [column]).eval scorer (.plain row)) := by
  have one : ofColumnSet plan [column] = group plan.logic [ofTermSet plan.termSet column] := rfl
  have proper := ofColumnSetProper bounded [column]
  rw [← evalKept scorer row [column] kept]
  rw [one] at proper ⊢
  rw [evalOne]
  cases proper with
  | group _ each =>
    have inner := each _ List.mem_cons_self
    obtain ⟨ts, read, parsed⟩ := predicateParsed inner
    exact ⟨ts, _, read, parsed, expressionEval scorer row inner⟩

end Predicate
end Sql

/-! ## Commands -/

namespace Cli
open Sql

section
variable {m : Type → Type} [Monad m] {α β : Type}

variable [LawfulMonad m]

theorem columnsEnd (compiled : Except Fault Clause.Compiled) :
    Ends (do
      let c ← settled compiled
      note Log.debug (compiledText c)
      return c.text : Work m String) (compiled.map Clause.Compiled.text) := by
  cases compiled with
  | error f => exact endsFailed (endsSettled (.error f)) _
  | ok c => exact endsBind (endsSettled (.ok c)) (endsBind (endsNote Log.debug _) (endsPure _))

end

section
variable (scorer : Scorer Binary64) (query : String) (budget : Value) (l k : Logic)

theorem valuesMatched (values : List String) :
    (matchValues scorer query values budget (.text l.word) (.text k.word)).run =
      (Matching.matchColumnsQuery (π := String) (Matching.recorded scorer) (.text query) budget (.text l.word)
        (.text k.word) (.ok (values.map some))).run := by
  unfold matchValues
  split
  · exact Matching.matchTarget scorer (.text query) budget l k _
  · rfl

section
variable {plan : ColumnSet String Binary64} {columns : List String}

theorem columnsRefused {f : Fault}
    (refused : (Plan.columnsOf (ColumnPolicy.ofValues (.text k.word) (.text l.word) budget)
      (.ok (Query.terms query)) : Except Fault (ColumnSet String Binary64)) = .error f)
    {m : Type → Type} [Monad m] [LawfulMonad m] (d : Dialect) (columns : List String) :
    Ends (compileColumns d query columns budget (.text l.word) (.text k.word) : Work m String) (.error f) := by
  have asked : Query.termsOf (.text query) = .ok (Query.terms query) := rfl
  have several (names : List Value) : Clause.ofColumnsQuery d (.ok names) (.text query) budget (.text l.word)
      (.text k.word) = .error f := by
    rw [ofColumnsQueryAsked d _ asked, Clause.ofColumns, refused]
    rfl
  unfold compileColumns
  split
  · rename_i column
    have one := Clause.ofColumn d (.text column) (.text query) budget l k
    rw [several] at one
    cases alone : Clause.ofQuery d (.text column) (.text query) budget (.text l.word) with
    | error g =>
      rw [alone] at one
      cases one
      exact endsSettled (.error f)
    | ok text =>
      rw [alone] at one
      cases one
  · rw [several]
    exact columnsEnd (.error f)

theorem columnsCompiled {reading : String → Binary64} (row : String → Option String)
    (planned : Plan.columnsOf (ColumnPolicy.ofValues (.text k.word) (.text l.word) budget)
      (.ok (Query.terms query)) = .ok plan)
    (kept : CutoffsKept reading plan) (named : ∀ c ∈ columns, c ≠ "") :
    ∃ text, (∀ {m : Type → Type} [Monad m] [LawfulMonad m],
        Ends (compileColumns .sqlite query columns budget (.text l.word) (.text k.word) : Work m String)
          (.ok text)) ∧
      ReadsAs scorer reading row text
        ((Predicate.ofColumnSet plan columns).eval scorer (.plain row)) := by
  have asked : Query.termsOf (.text query) = .ok (Query.terms query) := rfl
  obtain ⟨policy, _, made⟩ := Plan.columnsOfOk.mp planned
  have bounded := Plan.plannedBounded made
  have several := Clause.ofColumnsText (d := .sqlite) planned (.inr named)
  rw [← ofColumnsQueryAsked _ _ asked] at several
  unfold compileColumns
  split
  · rename_i column
    have alone := Clause.ofQueryText (d := .sqlite) asked (Plan.termsOfColumns "match_logic" planned)
      (named column List.mem_cons_self)
    refine ⟨_, ?_, Predicate.columnReadAs scorer row bounded kept column⟩
    intro m _ _
    rw [alone]
    exact endsSettled (.ok _)
  · refine ⟨_, ?_, Predicate.columnsReadAs scorer row bounded kept columns⟩
    intro m _ _
    rw [several]
    exact columnsEnd (.ok _)

end

end

/-- What is matched alone is matched, and what is compiled alone is written, as it is among others. So on a row of
texts a command that matches and the text of one that compiles agree, however many columns there are. -/
theorem shortPathsAgree (scorer : Scorer Binary64) (budget : Value) (l k : Logic) :
    (∀ (query : Value) (value : String),
      (Matching.matchQuery (π := String) (Matching.recorded scorer) (some value) query budget
        (.text l.word)).run =
      (Matching.matchColumnsQuery (π := String) (Matching.recorded scorer) query budget (.text l.word)
        (.text k.word) (.ok [some value])).run) ∧
    (∀ (d : Dialect) (column query : Value),
      (Clause.ofColumnsQuery d (.ok [column]) query budget (.text l.word) (.text k.word)).map
          Clause.Compiled.text =
        (Clause.ofQuery d column query budget (.text l.word)).map fun text => "(" ++ text ++ ")") ∧
    ∀ (query : String) (columns values : List String) (row : String → Option String)
      (reading : String → Binary64), (∀ c ∈ columns, c ≠ "") → columns.map row = values.map some →
      (∀ plan, Plan.columnsOf (ColumnPolicy.ofValues (.text k.word) (.text l.word) budget)
        (.ok (Query.terms query)) = .ok plan → CutoffsKept reading plan) →
      ∃ compiled : Except Fault String,
        (∀ {m : Type → Type} [Monad m] [LawfulMonad m],
          Ends (compileColumns .sqlite query columns budget (.text l.word) (.text k.word) : Work m String)
            compiled) ∧
        (∀ f, compiled = .error f ↔
          (matchValues scorer query values budget (.text l.word) (.text k.word)).run.1 = .error f) ∧
        ∀ text, compiled = .ok text → ∃ matched v,
          (matchValues scorer query values budget (.text l.word) (.text k.word)).run.1 = .ok matched ∧
          ReadsAs scorer reading row text v ∧ (matched = true ↔ v = some true) := by
  refine ⟨fun query value => Matching.matchTarget scorer query budget l k (some value),
    fun d column query => Clause.ofColumn d column query budget l k, ?_⟩
  intro query columns values row reading named given kept
  have asked : Query.termsOf (.text query) = .ok (Query.terms query) := rfl
  rw [valuesMatched, ← given]
  cases planned : (Plan.columnsOf (ColumnPolicy.ofValues (.text k.word) (.text l.word) budget)
      (.ok (Query.terms query)) : Except Fault (ColumnSet String Binary64)) with
  | error f =>
    have evaluation : (Matching.matchColumnsQuery (π := String) (Matching.recorded scorer) (.text query) budget
        (.text l.word) (.text k.word) (.ok (columns.map row))).run = (.error f, []) := by
      rw [Matching.matchColumnsQuery, Matching.settledRun, Matching.queryPatternsOk asked]
      exact Matching.evaluatedRefused scorer planned _
    rw [evaluation]
    exact ⟨.error f, fun {m} _ _ => columnsRefused query budget l k planned .sqlite columns, fun g => by simp,
      fun text same => nomatch same⟩
  | ok plan =>
    obtain ⟨text, ends, reads⟩ := columnsCompiled scorer query budget l k row planned (kept plan planned) named
    have answer := Matching.columnsQueryAnswer scorer asked planned (columns.map row)
    have known : ∀ c ∈ columns, row c ≠ none := by
      intro c member none
      have inside : row c ∈ values.map some := given ▸ List.mem_map_of_mem member
      simp [none] at inside
    rw [answer]
    refine ⟨.ok text, ends, fun f => ⟨nofun, nofun⟩, ?_⟩
    intro _ same
    cases same
    exact ⟨_, _, rfl, reads, (Predicate.ofColumnSetTrue scorer row (.inr known)).symm⟩

theorem shortPathsAgreeQuoted :
    ∃ text, Ends (compileColumns .sqlite " Anna  Bo" ["last \"name\""] (.int 1) (.text "OR") (.text "AND") :
        Work Id String) (.ok text) ∧
      ReadsAs Similarity.Measure.partialRatio.scorer (fun s => (Number.readBinary64? s).getD .nan)
        (fun _ => some "Annah") text (some true) ∧
      (matchValues Similarity.Measure.partialRatio.scorer " Anna  Bo" ["Annah"] (.int 1) (.text "OR")
        (.text "AND")).run.1 = .ok true := by
  have found : (matchValues Similarity.Measure.partialRatio.scorer " Anna  Bo" ["Annah"] (.int 1)
      (.text Logic.or.word) (.text Logic.and.word)).run.1 = .ok true := Outcome.optionOk (by decide +kernel)
  obtain ⟨compiled, ends, refused, agrees⟩ := (shortPathsAgree Similarity.Measure.partialRatio.scorer (.int 1)
    .or .and).2.2 " Anna  Bo" ["last \"name\""] ["Annah"] (fun _ => some "Annah")
    (fun s => (Number.readBinary64? s).getD .nan) (by decide) rfl fun plan planned => by
      obtain ⟨_, _, made⟩ := Plan.columnsOfOk.mp planned
      exact cutoffsRead made
  cases compiled with
  | error f =>
    have failed := (refused f).mp rfl
    rw [found] at failed
    cases failed
  | ok text =>
    obtain ⟨matched, v, answer, reads, same⟩ := agrees text rfl
    rw [found] at answer
    cases answer
    exact ⟨text, ends, same.mp rfl ▸ reads, found⟩

end Cli
end TypoSearch
