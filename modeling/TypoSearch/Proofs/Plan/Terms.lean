import TypoSearch.Plan
import TypoSearch.Proofs.Plan.Arguments
import TypoSearch.Proofs.Plan.Cutoff

/-! What planning makes of the terms of a query: one check for each term, in order. The checks know the
terms and the budget alone, and a planned cutoff is a number from zero to one. -/
namespace TypoSearch.Plan
open Outcome (bindOk pureOk mapOk mapSome mapMembers mapEvery mapRefused relatedMap)
open Number (Binary64)

inductive Asks {ν : Type} [Scale ν] (typos : Nat) (pattern : String) : TermCheck String ν → Prop where
  | contains (easy : pattern.length < trigramLength ∨ typos = 0) : Asks typos pattern ⟨pattern, .contains⟩
  | similarity {cutoff : ν} (long : trigramLength ≤ pattern.length) (nonzero : typos ≠ 0)
      (made : Cutoff.ofLength pattern.length (typos + extraTypos pattern.length) = .ok cutoff) :
      Asks typos pattern ⟨pattern, .similarity cutoff⟩

section
variable {ν : Type} [Scale ν] {typos : Nat} {pattern : String}

theorem termEasy (easy : pattern.length < trigramLength ∨ typos = 0) :
    (term typos pattern : Except Fault (TermCheck String ν)) = .ok ⟨pattern, .contains⟩ := by
  have sized : (Pattern.size pattern : Except Fault Nat) = .ok pattern.length := rfl
  unfold term
  rw [sized]
  change (if _ then _ else _) = _
  rw [if_pos (by simpa using easy)]
  rfl

theorem termHard (long : trigramLength ≤ pattern.length) (nonzero : typos ≠ 0) :
    (term typos pattern : Except Fault (TermCheck String ν)) = do
      return ⟨pattern, .similarity (← Cutoff.ofLength pattern.length (typos + extraTypos pattern.length))⟩ := by
  have sized : (Pattern.size pattern : Except Fault Nat) = .ok pattern.length := rfl
  have hard : ¬(pattern.length < trigramLength ∨ typos = 0) := by omega
  unfold term
  rw [sized]
  change (if _ then _ else _) = _
  rw [if_neg (by simpa using hard)]

theorem termOk {c : TermCheck String ν} : term typos pattern = .ok c ↔ Asks typos pattern c := by
  constructor
  · intro made
    by_cases easy : pattern.length < trigramLength ∨ typos = 0
    · rw [termEasy easy] at made
      cases made
      exact .contains easy
    · have long : trigramLength ≤ pattern.length := by omega
      have nonzero : typos ≠ 0 := by omega
      rw [termHard long nonzero] at made
      obtain ⟨cutoff, sized, last⟩ := bindOk.mp made
      cases pureOk.mp last
      exact .similarity long nonzero sized
  · intro asks
    cases asks with
    | contains easy => exact termEasy easy
    | similarity long nonzero made =>
      rw [termHard long nonzero, made]
      rfl

theorem asksPattern {c : TermCheck String ν} (asks : Asks typos pattern c) : c.pattern = pattern := by
  cases asks <;> rfl

end

def Bounded (c : TermCheck String Binary64) : Prop :=
  ∀ x, c.regime = .similarity x → Cutoff.IsShare x

theorem asksBounded {typos : Nat} {pattern : String} {c : TermCheck String Binary64}
    (asks : Asks typos pattern c) : Bounded c := by
  intro x same
  cases asks with
  | contains _ => cases same
  | similarity long _ made =>
    cases same
    exact Cutoff.ofLengthShare long made

structure Planned {ν : Type} [Scale ν] (policy : ColumnPolicy) (patterns : List String)
    (plan : ColumnSet String ν) : Prop where
  columnLogic : plan.logic = policy.columnLogic
  termLogic : plan.termSet.logic = policy.terms.termLogic
  checks : List.Forall₂ (Asks policy.terms.typos) patterns plan.termSet.checks

section
variable {ν : Type} [Scale ν] {policy : ColumnPolicy} {patterns : List String} {plan : ColumnSet String ν}

theorem columnsOk : columns policy patterns = .ok plan ↔ Planned policy patterns plan := by
  simp only [columns, terms, bindOk, pureOk, mapOk, termOk]
  constructor
  · rintro ⟨_, ⟨checks, related, rfl⟩, rfl⟩
    exact ⟨rfl, rfl, related⟩
  · rintro ⟨columnLogic, termLogic, related⟩
    obtain ⟨logic, termLogic', checks⟩ := plan
    cases columnLogic
    cases termLogic
    exact ⟨_, ⟨_, related, rfl⟩, rfl⟩

theorem plannedPatterns (planned : Planned policy patterns plan) :
    plan.termSet.checks.map TermCheck.pattern = patterns := by
  have related : List.Forall₂ (fun p (c : TermCheck String ν) => c.pattern = p) patterns plan.termSet.checks :=
    planned.checks.imp fun _ _ => asksPattern
  have flipped := relatedMap (f := TermCheck.pattern) (related.flip.imp fun _ _ same => same.symm)
  exact flipped.symm

theorem plannedMapped (planned : Planned policy patterns plan) :
    patterns.mapM (term policy.terms.typos) = .ok plan.termSet.checks :=
  mapOk.mpr (planned.checks.imp fun _ _ => termOk.mpr)

theorem plannedAsks (planned : Planned policy patterns plan) {c : TermCheck String ν} (member : c ∈ plan.termSet.checks) :
    ∃ p ∈ patterns, Asks policy.terms.typos p c := by
  obtain ⟨p, inside, made⟩ := (mapMembers (plannedMapped planned) c).mp member
  exact ⟨p, inside, termOk.mp made⟩

theorem plannedMembers {others : List String} (planned : Planned policy patterns plan)
    (same : ∀ p, p ∈ others ↔ p ∈ patterns) :
    ∃ again : ColumnSet String ν, Planned policy others again ∧
      ∀ c, c ∈ again.termSet.checks ↔ c ∈ plan.termSet.checks := by
  have made := plannedMapped planned
  obtain ⟨checks, remade⟩ := mapSome fun p member => mapEvery made ((same p).mp member)
  refine ⟨⟨policy.columnLogic, ⟨policy.terms.termLogic, checks⟩⟩, ⟨rfl, rfl, ?_⟩, ?_⟩
  · exact (mapOk.mp remade).imp fun _ _ => termOk.mp
  · intro c
    rw [mapMembers made, mapMembers remade]
    simp only [same]

theorem plannedEmpty (planned : Planned policy patterns plan) :
    plan.termSet.checks = [] ↔ patterns = [] := by
  rw [← plannedPatterns planned, List.map_eq_nil_iff]

end

theorem plannedBounded {policy : ColumnPolicy} {patterns : List String} {plan : ColumnSet String Binary64}
    (planned : Planned policy patterns plan) : ∀ c ∈ plan.termSet.checks, Bounded c := by
  intro c member
  obtain ⟨_, _, asks⟩ := plannedAsks planned member
  exact asksBounded asks

theorem columnsOfOk {ν : Type} [Scale ν] {given : Except Fault ColumnPolicy} {patterns : List String}
    {plan : ColumnSet String ν} :
    columnsOf given (.ok patterns) = .ok plan ↔ ∃ policy, given = .ok policy ∧ Planned policy patterns plan := by
  simp only [columnsOf, bindOk, columnsOk, Except.ok.injEq, exists_eq_left']

def Converts (typos : Nat) (pattern : String) : Prop :=
  (Binary64.ofInt? pattern.length).isSome ∧
    (Binary64.ofInt? (typos + extraTypos pattern.length : Nat)).isSome

theorem asksConverted {typos : Nat} {pattern : String} (converts : Converts typos pattern) :
    ∃ c : TermCheck String Binary64, Asks typos pattern c := by
  by_cases easy : pattern.length < trigramLength ∨ typos = 0
  · exact ⟨_, .contains easy⟩
  · have long : trigramLength ≤ pattern.length := by omega
    have nonzero : typos ≠ 0 := by omega
    obtain ⟨cutoff, made⟩ := Cutoff.ofLengthConverted long converts.1 converts.2
    exact ⟨⟨pattern, .similarity cutoff⟩, .similarity long nonzero made⟩

theorem termsConverted {policy : Policy} {patterns : List String}
    (converts : ∀ p ∈ patterns, Converts policy.typos p) :
    ∃ plan : TermSet String Binary64, terms policy patterns = .ok plan := by
  have each : ∀ p ∈ patterns, ∃ c : TermCheck String Binary64, term policy.typos p = .ok c := by
    intro p member
    obtain ⟨c, asks⟩ := asksConverted (converts p member)
    exact ⟨c, termOk.mpr asks⟩
  obtain ⟨checks, made⟩ := mapSome each
  refine ⟨⟨policy.termLogic, checks⟩, ?_⟩
  rw [terms, made]
  rfl

theorem columnsConverted {policy : ColumnPolicy} {patterns : List String}
    (converts : ∀ p ∈ patterns, Converts policy.terms.typos p) :
    ∃ plan : ColumnSet String Binary64, columns policy patterns = .ok plan := by
  obtain ⟨plan, made⟩ := termsConverted converts
  refine ⟨⟨policy.columnLogic, plan⟩, ?_⟩
  rw [columns, made]
  rfl

theorem termsOfConverted (argument : String) (l : Logic) {typos : Nat} {patterns : List String}
    (converts : ∀ p ∈ patterns, Converts typos p) : ∃ plan : TermSet String Binary64,
      termsOf (Policy.ofValues argument (.text l.word) (.int typos)) (.ok patterns) = .ok plan := by
  have policy : Policy.ofValues argument (.text l.word) (.int typos) = .ok ⟨l, typos⟩ :=
    Policy.ofValuesOk.mpr ⟨rfl, rfl⟩
  rw [policy]
  exact @termsConverted ⟨l, typos⟩ patterns converts

theorem columnsOfConverted (columnLogic l : Logic) {typos : Nat} {patterns : List String}
    (converts : ∀ p ∈ patterns, Converts typos p) : ∃ plan : ColumnSet String Binary64,
      columnsOf (ColumnPolicy.ofValues (.text columnLogic.word) (.text l.word) (.int typos)) (.ok patterns) =
        .ok plan := by
  have policy : ColumnPolicy.ofValues (.text columnLogic.word) (.text l.word) (.int typos) =
      .ok ⟨columnLogic, ⟨l, typos⟩⟩ := ColumnPolicy.ofValuesOk.mpr ⟨rfl, rfl, rfl⟩
  rw [policy]
  exact @columnsConverted ⟨columnLogic, ⟨l, typos⟩⟩ patterns converts

theorem termOverflow {typos : Nat} {pattern : String} (long : trigramLength ≤ pattern.length)
    (nonzero : typos ≠ 0) (beyond : ¬Converts typos pattern) :
    (term typos pattern : Except Fault (TermCheck String Binary64)) = .error .tooLarge := by
  rw [termHard long nonzero, Cutoff.ofLengthOverflow long beyond]
  rfl

theorem termsOverflow {policy : Policy} {patterns : List String} {p : String} (member : p ∈ patterns)
    (long : trigramLength ≤ p.length) (nonzero : policy.typos ≠ 0) (beyond : ¬Converts policy.typos p) :
    (terms policy patterns : Except Fault (TermSet String Binary64)) = .error .tooLarge := by
  have each : ∀ p ∈ patterns, (∃ c : TermCheck String Binary64, term policy.typos p = .ok c) ∨
      (term policy.typos p : Except Fault (TermCheck String Binary64)) = .error .tooLarge := by
    intro p _
    by_cases converts : Converts policy.typos p
    · obtain ⟨c, asks⟩ := asksConverted converts
      exact .inl ⟨c, termOk.mpr asks⟩
    · by_cases long : trigramLength ≤ p.length
      · exact .inr (termOverflow long nonzero converts)
      · exact .inl ⟨_, termOk.mpr (.contains (.inl (Nat.lt_of_not_le long)))⟩
  unfold terms
  rw [mapRefused each ⟨p, member, termOverflow long nonzero beyond⟩]
  rfl

theorem columnsOverflow {policy : ColumnPolicy} {patterns : List String} {p : String} (member : p ∈ patterns)
    (long : trigramLength ≤ p.length) (nonzero : policy.terms.typos ≠ 0)
    (beyond : ¬Converts policy.terms.typos p) :
    (columns policy patterns : Except Fault (ColumnSet String Binary64)) = .error .tooLarge := by
  unfold columns
  rw [termsOverflow member long nonzero beyond]
  rfl

theorem validPlanned {columnLogic termLogic budget : Value} {patterns : List String}
    (valid : ¬ColumnPolicy.Invalid columnLogic termLogic budget)
    (converts : ∀ typos : Nat, budget = .int typos → ∀ p ∈ patterns, Converts typos p) :
    ∃ plan : ColumnSet String Binary64,
      columnsOf (ColumnPolicy.ofValues columnLogic termLogic budget) (.ok patterns) = .ok plan := by
  obtain ⟨policy, settled⟩ := ColumnPolicy.validSettled.mp valid
  obtain ⟨_, _, typos⟩ := ColumnPolicy.ofValuesOk.mp settled
  obtain ⟨plan, made⟩ := columnsConverted (converts _ typos)
  exact ⟨plan, columnsOfOk.mpr ⟨policy, settled, columnsOk.mp made⟩⟩

end TypoSearch.Plan
