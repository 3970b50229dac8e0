import TypoSearch.Matching
import TypoSearch.Proofs.Plan.Terms

/-! Evaluation against its reference, which asks every check of every target. Asking stops early, but the
answer is the one of asking all; what is recorded is what was visited from the left. The same answer is
given with a record and without one, whatever the record holds. -/
namespace TypoSearch
open Similarity (Scorer)

namespace Logic
variable {α : Type}

def visited (l : Logic) (answer : α → Bool) (xs : List α) : List α :=
  xs.take (xs.findIdx (fun x => answer x != l.neutral) + 1)

theorem visitedCons (l : Logic) (answer : α → Bool) (x : α) (xs : List α) :
    l.visited answer (x :: xs) = if answer x = l.neutral then x :: l.visited answer xs else [x] := by
  cases decides : answer x != l.neutral with
  | true =>
    have differs : answer x ≠ l.neutral := bne_iff_ne.mp decides
    simp [visited, List.findIdx_cons, decides, differs]
  | false =>
    have same : answer x = l.neutral := by simpa using decides
    simp [visited, List.findIdx_cons, same]

theorem joinCons (l : Logic) (answer : Bool) (rest : List Bool) :
    l.join (answer :: rest) = if answer = l.neutral then l.join rest else answer := by
  cases l <;> cases answer <;> simp [join, neutral]

theorem decideJoin (l : Logic) (ask : α → Bool) (xs : List α) :
    l.decide (m := Id) ask xs = l.join (xs.map ask) := by
  induction xs with
  | nil => cases l <;> rfl
  | cons x xs ih =>
    rw [List.map_cons, joinCons, ← ih]
    rfl

end Logic

section
variable {ν : Type} [Scale ν] (scorer : Scorer ν)

/-! ## The reference: every check of every target -/

def TermCheck.holds (c : TermCheck String ν) (target : String) : Bool :=
  match c.regime with
  | .contains => Text.containsIgnoringCase target c.pattern
  | .similarity cutoff => Scale.atLeast (scorer c.pattern target) cutoff

def TermSet.holds (plan : TermSet String ν) : Option String → Bool
  | none => false
  | some target => plan.logic.join (plan.checks.map fun c => c.holds scorer target)

def ColumnSet.holds (plan : ColumnSet String ν) (targets : List (Option String)) : Bool :=
  plan.logic.join (targets.map (plan.termSet.holds scorer))

def TermCheck.events (target : String) (c : TermCheck String ν) : List (Event String String ν) :=
  match c.regime with
  | .contains => [.contained c.pattern (c.holds scorer target)]
  | .similarity cutoff =>
    [.asked c.pattern target, .scored c.pattern (scorer c.pattern target) cutoff (c.holds scorer target)]

def TermSet.events (plan : TermSet String ν) : Option String → List (Event String String ν)
  | none => []
  | some target =>
    (plan.logic.visited (fun c => c.holds scorer target) plan.checks).flatMap (TermCheck.events scorer target)

def ColumnSet.events (plan : ColumnSet String ν) (targets : List (Option String)) :
    List (Event String String ν) :=
  (plan.logic.visited (plan.termSet.holds scorer) targets).flatMap (plan.termSet.events scorer)

end

namespace Matching

/-! ## Computations that keep a record -/

section
variable {π τ ν α β : Type}

def Leaves (x : Recorded π τ ν α) (a : α) (added : List (Event π τ ν)) : Prop :=
  ∀ es, Id.run (StateT.run (ExceptT.run x) es) = (.ok a, es ++ added)

theorem leavesRun {x : Recorded π τ ν α} {a : α} {added : List (Event π τ ν)} (leaves : Leaves x a added) :
    x.run = (.ok a, added) := leaves []

theorem settledRun (x : Except Fault α) (next : α → Recorded π τ ν β) :
    (settled x >>= next).run = match x with
      | .ok a => (next a).run
      | .error f => (.error f, []) := by
  cases x <;> rfl

theorem settledOk {x : Except Fault α} {next : α → Recorded π τ ν β} {b : β} :
    (settled x >>= next).run.1 = .ok b ↔ ∃ a, x = .ok a ∧ (next a).run.1 = .ok b := by
  rw [settledRun]
  cases x with
  | error f => simp
  | ok a => simp

theorem leavesPure (a : α) : Leaves (pure a : Recorded π τ ν α) a [] := by
  intro es
  rw [List.append_nil]
  rfl

theorem leavesBind {x : Recorded π τ ν α} {next : α → Recorded π τ ν β} {a : α} {b : β}
    {first second : List (Event π τ ν)} (before : Leaves x a first) (after : Leaves (next a) b second) :
    Leaves (x >>= next) b (first ++ second) := by
  intro es
  have ran := before es
  rw [← List.append_assoc, ← after (es ++ first)]
  rw [ExceptT.run_bind, StateT.run_bind, Id.run_bind, ran]

theorem leavesDecide {l : Logic} {ask : α → Recorded π τ ν Bool} {answer : α → Bool}
    {events : α → List (Event π τ ν)} (each : ∀ x, Leaves (ask x) (answer x) (events x)) (xs : List α) :
    Leaves (l.decide ask xs) (l.join (xs.map answer)) ((l.visited answer xs).flatMap events) := by
  induction xs with
  | nil => cases l <;> exact leavesPure _
  | cons x xs ih =>
    rw [List.map_cons, Logic.joinCons, Logic.visitedCons]
    by_cases more : answer x = l.neutral
    · rw [if_pos more, if_pos more, List.flatMap_cons]
      apply leavesBind (each x)
      rw [if_pos more]
      exact ih
    · rw [if_neg more, if_neg more, List.flatMap_singleton, ← List.append_nil (events x)]
      apply leavesBind (each x)
      rw [if_neg more]
      exact leavesPure _

end

section
variable {ν : Type} [Scale ν] (scorer : Scorer ν)

/-! ## Answers without a record -/

theorem matchesContained {c : TermCheck String ν} (asks : c.regime = .contains) (target : String) :
    matchesTerm scorer c (some target) = Text.containsIgnoringCase target c.pattern := by
  obtain ⟨pattern, regime⟩ := c
  cases asks
  rfl

theorem matchesScored {c : TermCheck String ν} {cutoff : ν} (asks : c.regime = .similarity cutoff)
    (target : String) :
    matchesTerm scorer c (some target) = Scale.atLeast (scorer c.pattern target) cutoff := by
  obtain ⟨pattern, regime⟩ := c
  cases asks
  rfl

theorem matchesTermsSome (plan : TermSet String ν) (target : String) :
    matchesTerms scorer plan (some target) =
      plan.logic.join (plan.checks.map fun c => matchesTerm scorer c (some target)) :=
  Logic.decideJoin _ _ _

theorem matchesColumnsJoin (plan : ColumnSet String ν) (targets : List (Option String)) :
    matchesColumns scorer plan targets = plan.logic.join (targets.map (matchesTerms scorer plan.termSet)) :=
  Logic.decideJoin _ _ _

theorem matchesTermHolds (c : TermCheck String ν) (target : Option String) :
    matchesTerm scorer c target = target.any (c.holds scorer) := by
  cases target with
  | none => rfl
  | some target =>
    obtain ⟨pattern, regime⟩ := c
    cases regime <;> rfl

theorem matchesTermsHolds (plan : TermSet String ν) (target : Option String) :
    matchesTerms scorer plan target = plan.holds scorer target := by
  cases target with
  | none => rfl
  | some target =>
    rw [matchesTermsSome, TermSet.holds]
    simp only [matchesTermHolds, Option.any_some]

theorem matchesColumnsHolds (plan : ColumnSet String ν) (targets : List (Option String)) :
    matchesColumns scorer plan targets = plan.holds scorer targets := by
  rw [matchesColumnsJoin, ColumnSet.holds, funext (matchesTermsHolds scorer plan.termSet)]

/-! ## Answers and records -/

theorem termLeaves (c : TermCheck String ν) (target : String) :
    Leaves (term (recorded scorer) c (some target)) (c.holds scorer target) (c.events scorer target) := by
  obtain ⟨pattern, regime⟩ := c
  cases regime with
  | contains => exact fun es => rfl
  | similarity cutoff =>
    intro es
    have together : es ++ [.asked pattern target] ++ [.scored pattern (scorer pattern target) cutoff
        (Scale.atLeast (scorer pattern target) cutoff)] =
        es ++ TermCheck.events scorer target ⟨pattern, .similarity cutoff⟩ := List.append_assoc ..
    rw [← together]
    rfl

theorem termSetLeaves (plan : TermSet String ν) (target : Option String) :
    Leaves (termSet (recorded scorer) plan target) (plan.holds scorer target)
      (plan.events scorer target) := by
  cases target with
  | none => exact leavesPure false
  | some target => exact leavesDecide (fun c => termLeaves scorer c target) plan.checks

theorem columnSetLeaves (plan : ColumnSet String ν) (targets : List (Option String)) :
    Leaves (columnSet (recorded scorer) plan targets) (plan.holds scorer targets)
      (plan.events scorer targets) :=
  leavesDecide (termSetLeaves scorer plan.termSet) targets

theorem termAnswer (c : TermCheck String ν) (target : Option String) :
    (term (recorded scorer) c target).run.1 = .ok (matchesTerm scorer c target) := by
  rw [matchesTermHolds]
  cases target with
  | none => rfl
  | some target => exact congrArg Prod.fst (leavesRun (termLeaves scorer c target))

theorem termSetAnswer (plan : TermSet String ν) (target : Option String) :
    (termSet (recorded scorer) plan target).run.1 = .ok (matchesTerms scorer plan target) := by
  rw [matchesTermsHolds, leavesRun (termSetLeaves scorer plan target)]

theorem columnSetAnswer (plan : ColumnSet String ν) (targets : List (Option String)) :
    (columnSet (recorded scorer) plan targets).run.1 = .ok (matchesColumns scorer plan targets) := by
  rw [matchesColumnsHolds, leavesRun (columnSetLeaves scorer plan targets)]

theorem matchTermAnswer {pattern : String} {budget : Value} {c : TermCheck String ν}
    (planned : Plan.termOf budget pattern = .ok c) (target : Option String) :
    (matchTerm (recorded scorer) target pattern budget).run.1 = .ok (matchesTerm scorer c target) :=
  settledOk.mpr ⟨c, planned, termAnswer scorer c target⟩

theorem queryPatternsOk {query : Value} {terms : List String} (asked : Query.termsOf query = .ok terms) :
    (queryPatterns query : Except Fault (List String)) = .ok terms := by
  unfold queryPatterns
  rw [asked]
  change Except.ok (terms.map id) = _
  rw [List.map_id]

theorem queryAnswer {query budget termLogic : Value} {terms : List String} {plan : TermSet String ν}
    (asked : Query.termsOf query = .ok terms)
    (planned : Plan.termsOf (Policy.ofValues "match_logic" termLogic budget) (.ok terms) = .ok plan)
    (target : Option String) :
    (matchQuery (π := String) (recorded scorer) target query budget termLogic).run.1 =
      .ok (matchesTerms scorer plan target) :=
  settledOk.mpr ⟨terms, queryPatternsOk asked, settledOk.mpr ⟨plan, planned, termSetAnswer scorer plan target⟩⟩

theorem columnsQueryAnswer {query budget termLogic columnLogic : Value} {terms : List String}
    {plan : ColumnSet String ν} (asked : Query.termsOf query = .ok terms)
    (planned : Plan.columnsOf (ColumnPolicy.ofValues columnLogic termLogic budget) (.ok terms) = .ok plan)
    (targets : List (Option String)) :
    (matchColumnsQuery (π := String) (recorded scorer) query budget termLogic columnLogic
      (.ok targets)).run.1 = .ok (matchesColumns scorer plan targets) := by
  have evaluated : (do columnSet (recorded scorer) plan (← settled (.ok targets))).run.1 =
      .ok (matchesColumns scorer plan targets) := columnSetAnswer scorer plan targets
  exact settledOk.mpr ⟨terms, queryPatternsOk asked, settledOk.mpr ⟨plan, planned, evaluated⟩⟩

end

end Matching
end TypoSearch
