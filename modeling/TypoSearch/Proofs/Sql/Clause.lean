import TypoSearch.Proofs.Sql.Layout

/-! Compilation: which predicate a plan becomes, and how its text is read back. A column name is looked at
only where a term is written, so a name that is empty does no harm to a query without terms. -/
namespace TypoSearch.Sql
open Number (Binary64)
open Outcome (okBind bindOk pureOk mapOk mapEach)

namespace Clause
variable {d : Dialect} {column : String} {columns terms : List String}

theorem columnNameText (nonempty : column ≠ "") : columnName (.text column) = .ok column := by
  have : column.isEmpty = false := by simpa using nonempty
  simp [columnName, this]

theorem termPredicateText (nonempty : column ≠ "") (c : TermCheck String Binary64) :
    termPredicate d c (.text column) = .ok (.ofCheck column c) := by
  unfold termPredicate
  rw [columnNameText nonempty]
  rfl

theorem setPredicateText {plan : TermSet String Binary64} (named : plan.checks = [] ∨ column ≠ "") :
    setPredicate d plan (.text column) = .ok (.ofTermSet plan column) := by
  unfold setPredicate Predicate.ofTermSet
  split
  · rfl
  · rename_i some
    have nonempty : column ≠ "" := named.resolve_left (by simpa using some)
    have members : plan.checks.mapM (fun c => termPredicate d c (.text column)) =
        .ok (plan.checks.map (Predicate.ofCheck column)) :=
      mapEach fun c _ => termPredicateText nonempty c
    rw [members]
    rfl

theorem columnsPredicateText {plan : ColumnSet String Binary64}
    (named : plan.termSet.checks = [] ∨ ∀ c ∈ columns, c ≠ "") :
    columnsPredicate d plan (columns.map Value.text) = .ok (.ofColumnSet plan columns) := by
  unfold columnsPredicate Predicate.ofColumnSet
  rw [List.isEmpty_map]
  split
  · rfl
  · have each : ∀ c ∈ columns,
        (setPredicate d plan.termSet ∘ Value.text) c = .ok (.ofTermSet plan.termSet c) :=
      fun c member => setPredicateText (named.imp_right fun all => all c member)
    rw [List.mapM_map, mapEach each]
    rfl

theorem columnsPredicateRefused {plan : ColumnSet String Binary64} (hasTerms : plan.termSet.checks ≠ [])
    (unnamed : "" ∈ columns) :
    columnsPredicate d plan (columns.map Value.text) = .error (.columnName (.text "")) := by
  have refused : setPredicate d plan.termSet (.text "") = .error (.columnName (.text "")) := by
    obtain ⟨c, cs, same⟩ := List.exists_cons_of_ne_nil hasTerms
    unfold setPredicate
    rw [same, List.mapM_cons]
    rfl
  have each : ∀ c ∈ columns, (∃ p, (setPredicate d plan.termSet ∘ Value.text) c = .ok p) ∨
      (setPredicate d plan.termSet ∘ Value.text) c = .error (.columnName (.text "")) := by
    intro c _
    by_cases empty : c = ""
    · subst empty
      exact .inr refused
    · exact .inl ⟨_, setPredicateText (.inr empty)⟩
  have some : ¬(columns.map Value.text).isEmpty = true := by
    rw [List.isEmpty_map, List.isEmpty_iff]
    exact List.ne_nil_of_mem unnamed
  unfold columnsPredicate
  rw [if_neg some, List.mapM_map, Outcome.mapRefused each ⟨"", unnamed, refused⟩]
  rfl

theorem ofQueryText {query budget logic : Value} {plan : TermSet String Binary64}
    (asked : Query.termsOf query = .ok terms)
    (planned : Plan.termsOf (Policy.ofValues "match_logic" logic budget) (.ok terms) = .ok plan)
    (nonempty : column ≠ "") :
    ofQuery d (.text column) query budget logic = .ok ((Predicate.ofTermSet plan column).text d) := by
  rw [ofQuery, asked, okBind, ofTerms, planned, okBind, setPredicateText (.inr nonempty)]
  rfl

section
variable {budget termLogic columnLogic : Value} {plan : ColumnSet String Binary64}

theorem ofColumnsText
    (planned : Plan.columnsOf (ColumnPolicy.ofValues columnLogic termLogic budget) (.ok terms) = .ok plan)
    (named : terms = [] ∨ ∀ c ∈ columns, c ≠ "") :
    ofColumns d (.ok (columns.map Value.text)) (.ok terms) budget termLogic columnLogic =
      .ok ⟨.ofColumnSet plan columns, (Predicate.ofColumnSet plan columns).text d,
        plan.termSet.checks.length, columns.length⟩ := by
  obtain ⟨policy, _, settled⟩ := Plan.columnsOfOk.mp planned
  have named := named.imp_left (Plan.plannedEmpty settled).mpr
  unfold ofColumns
  rw [planned]
  simp only [bind, Except.bind, columnsPredicateText named, List.length_map]
  rfl

theorem ofColumnsInvalid {columns : Except Fault (List Value)}
    (invalid : ColumnPolicy.Invalid columnLogic termLogic budget) :
    ∃ f, ofColumns d columns (.ok terms) budget termLogic columnLogic = .error f ∧ f.blamesValue = true := by
  obtain ⟨f, refused, blames⟩ := ColumnPolicy.invalidRefused invalid
  refine ⟨f, ?_, blames⟩
  unfold ofColumns
  rw [refused]
  rfl

theorem ofColumnsUnnamed
    (planned : Plan.columnsOf (ColumnPolicy.ofValues columnLogic termLogic budget) (.ok terms) = .ok plan)
    (hasTerms : terms ≠ []) (unnamed : "" ∈ columns) :
    ofColumns d (.ok (columns.map Value.text)) (.ok terms) budget termLogic columnLogic =
      .error (.columnName (.text "")) := by
  obtain ⟨policy, _, settled⟩ := Plan.columnsOfOk.mp planned
  have checks : plan.termSet.checks ≠ [] := mt (Plan.plannedEmpty settled).mp hasTerms
  unfold ofColumns
  rw [planned]
  simp only [bind, Except.bind, columnsPredicateRefused checks unnamed]

end
end Clause

namespace Predicate
variable {plan : ColumnSet String Binary64}

theorem ofTermSetEach {P : Predicate → Prop} {plan : TermSet String Binary64} {column : String}
    (constant : plan.checks = [] → ∀ value, P (constant value))
    (group : ∀ logic members, members ≠ [] → (∀ p ∈ members, P p) → P (group logic members))
    (check : ∀ c ∈ plan.checks, P (ofCheck column c)) : P (ofTermSet plan column) := by
  unfold ofTermSet
  split
  · rename_i none
    exact constant (List.isEmpty_iff.mp none) _
  · rename_i some
    refine group _ _ (by simpa using some) fun p member => ?_
    obtain ⟨c, inside, rfl⟩ := List.mem_map.mp member
    exact check c inside

theorem ofColumnSetEach {P : Predicate → Prop} {columns : List String}
    (constant : plan.termSet.checks = [] ∨ columns = [] → ∀ value, P (constant value))
    (group : ∀ logic members, members ≠ [] → (∀ p ∈ members, P p) → P (group logic members))
    (check : ∀ column, ∀ c ∈ plan.termSet.checks, P (ofCheck column c)) : P (ofColumnSet plan columns) := by
  unfold ofColumnSet
  split
  · rename_i none
    exact constant (.inr (List.isEmpty_iff.mp none)) _
  · rename_i some
    refine group _ _ (by simpa using some) fun p member => ?_
    obtain ⟨column, _, rfl⟩ := List.mem_map.mp member
    exact ofTermSetEach (fun none => constant (.inl none)) group (check column)

theorem ofCheckProper {c : TermCheck String Binary64} (bounded : Plan.Bounded c) (column : String) :
    (ofCheck column c).Proper := by
  obtain ⟨pattern, regime⟩ := c
  cases regime with
  | contains => exact .contains
  | similarity cutoff => exact .similar (bounded cutoff rfl)

theorem ofColumnSetProper (bounded : ∀ c ∈ plan.termSet.checks, Plan.Bounded c)
    (columns : List String) : (ofColumnSet plan columns).Proper :=
  ofColumnSetEach (fun _ _ => .constant) (fun _ _ => .group)
    fun column c inside => ofCheckProper (bounded c inside) column

theorem ofCheckLayout (d : Dialect) (column : String) (c : TermCheck String Binary64) :
    (ofCheck column c).layout d = Layout.check d column c := by
  obtain ⟨pattern, regime⟩ := c
  cases regime with
  | contains => rw [ofCheck, layout, Layout.check]
  | similarity cutoff => rw [ofCheck, layout, Layout.check]

theorem ofColumnSetLayout (d : Dialect) {columns : List String} (hasTerms : plan.termSet.checks ≠ [])
    (hasColumns : columns ≠ []) :
    (ofColumnSet plan columns).layout d = Layout.clause d plan columns := by
  have terms : plan.termSet.checks.isEmpty = false := by simpa using hasTerms
  have names : columns.isEmpty = false := by simpa using hasColumns
  have checks (column : String) : (ofTermSet plan.termSet column).layout d =
      Layout.joined plan.termSet.logic (plan.termSet.checks.map (Layout.check d column)) := by
    simp only [ofTermSet, terms, Bool.false_eq_true, if_false, layout, layoutsMap, List.map_map]
    congr 1
    exact List.map_congr_left fun c _ => ofCheckLayout d column c
  simp only [ofColumnSet, names, Bool.false_eq_true, if_false, layout, layoutsMap, List.map_map]
  unfold Layout.clause
  congr 1
  exact List.map_congr_left fun column _ => checks column

end Predicate

section
variable {base d : Dialect} {function : String} {terms columns : List String}
variable {budget termLogic columnLogic : Value} {plan : ColumnSet String Binary64}

theorem compiledRead (builtin : base ∈ Dialect.all) (renamed : base.withSimilarityFunction function = .ok d)
    (planned : Plan.columnsOf (ColumnPolicy.ofValues columnLogic termLogic budget) (.ok terms) = .ok plan)
    (hasTerms : terms ≠ []) (hasColumns : columns ≠ []) (named : ∀ c ∈ columns, c ≠ "") :
    ∃ compiled, Clause.ofColumns d (.ok (columns.map Value.text)) (.ok terms) budget termLogic
        columnLogic = .ok compiled ∧
      tokens d.quoting compiled.text.toList = some (Layout.clause d plan columns) ∧
      (∀ c ∈ columns, tokens d.quoting (d.identifier c).toList = some [d.quoting.identifierToken c]) ∧
      plan.termSet.checks.map TermCheck.pattern = terms ∧
      termLogic = .text plan.termSet.logic.word ∧ columnLogic = .text plan.logic.word := by
  obtain ⟨policy, settled, made⟩ := Plan.columnsOfOk.mp planned
  have checks : plan.termSet.checks ≠ [] := mt (Plan.plannedEmpty made).mp hasTerms
  have proper := Predicate.ofColumnSetProper (Plan.plannedBounded made) columns
  have read := predicateRead (renamedLegible (builtinLegible builtin) renamed) proper
  rw [Predicate.ofColumnSetLayout d checks hasColumns] at read
  obtain ⟨columnWord, termWord, _⟩ := ColumnPolicy.ofValuesOk.mp settled
  refine ⟨_, Clause.ofColumnsText planned (.inr named), read, ?_, Plan.plannedPatterns made, ?_, ?_⟩
  · intro c _
    exact identifierRead d.quoting c
  · rw [made.termLogic]
    exact termWord
  · rw [made.columnLogic]
    exact columnWord

end

theorem compiledReadQuoted :
    ∃ d plan compiled, Dialect.postgres.withSimilarityFunction "fuzzy.score" = .ok d ∧
      Clause.ofColumns d (.ok (["name", "Last \"Name\""].map Value.text)) (.ok ["it's) OR (", "\\'"])
        (.int 1) (.text "OR") (.text "AND") = .ok compiled ∧
      tokens d.quoting compiled.text.toList = some (Layout.clause d plan ["name", "Last \"Name\""]) ∧
      plan.termSet.checks.map TermCheck.pattern = ["it's) OR (", "\\'"] := by
  have planned : Plan.columnsOf (ColumnPolicy.ofValues (.text "AND") (.text "OR") (.int 1))
      (.ok ["it's) OR (", "\\'"]) = .ok (⟨.and, ⟨.or, [⟨"it's) OR (", .similarity (.finite false (2 ^ 1073))⟩,
        ⟨"\\'", .contains⟩]⟩⟩ : ColumnSet String Binary64) := Outcome.optionOk (by decide +kernel)
  have renamed : Dialect.postgres.withSimilarityFunction "fuzzy.score" =
      .ok { Dialect.postgres with similarityFunction := "fuzzy.score" } := by rfl
  have named : ∀ c ∈ ["name", "Last \"Name\""], c ≠ "" := by decide
  obtain ⟨compiled, made, read, _, patterns, _⟩ :=
    compiledRead (by decide) renamed planned (by decide) (List.cons_ne_nil _ _) named
  exact ⟨_, _, compiled, renamed, made, read, patterns⟩

end TypoSearch.Sql
