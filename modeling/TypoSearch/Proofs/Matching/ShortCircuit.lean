import TypoSearch.Proofs.Matching

/-! Evaluation asks no more than its answer needs. A scorer is known only through the pairs it is asked
for, so another that agrees on them makes no difference to the run; and the answer, being that of the
reference, does not depend on the order of what is asked. -/
namespace TypoSearch
open Similarity (Scorer)

namespace Logic
variable {α : Type}

theorem joinTrue (l : Logic) (answer : α → Bool) (xs : List α) : l.join (xs.map answer) = true ↔
    match l with
    | and => ∀ x ∈ xs, answer x = true
    | or => ∃ x ∈ xs, answer x = true := by
  cases l <;> simp [join]

theorem joinMembers (l : Logic) (answer : α → Bool) {xs ys : List α} (same : ∀ x, x ∈ xs ↔ x ∈ ys) :
    l.join (xs.map answer) = l.join (ys.map answer) := by
  rw [Bool.eq_iff_iff, joinTrue, joinTrue]
  cases l <;> simp [same]

theorem visitedAgree {l : Logic} {answer other : α → Bool} {xs : List α}
    (same : ∀ x ∈ l.visited answer xs, other x = answer x) :
    l.visited other xs = l.visited answer xs ∧ l.join (xs.map other) = l.join (xs.map answer) := by
  induction xs with
  | nil => exact ⟨rfl, rfl⟩
  | cons x xs ih =>
    rw [visitedCons] at same
    have here : other x = answer x := by
      apply same x
      split <;> exact List.mem_cons_self
    simp only [visitedCons, List.map_cons, joinCons, here]
    split
    · rename_i more
      rw [if_pos more] at same
      obtain ⟨places, joined⟩ := ih fun y member => same y (List.mem_cons_of_mem x member)
      exact ⟨congrArg _ places, joined⟩
    · exact ⟨rfl, rfl⟩

end Logic

/-! ## What is asked of a scorer -/

section
variable {ν : Type} [Scale ν] (scorer : Scorer ν)

def TermCheck.pair? (target : String) (c : TermCheck String ν) : Option (String × String) :=
  match c.regime with
  | .contains => none
  | .similarity _ => some (c.pattern, target)

def TermSet.asked (plan : TermSet String ν) : Option String → List (String × String)
  | none => []
  | some target =>
    (plan.logic.visited (fun c => c.holds scorer target) plan.checks).filterMap (TermCheck.pair? target)

def ColumnSet.asked (plan : ColumnSet String ν) (targets : List (Option String)) : List (String × String) :=
  (plan.logic.visited (plan.termSet.holds scorer) targets).flatMap (plan.termSet.asked scorer)

theorem checkAsked (target : String) (c : TermCheck String ν) :
    (c.events scorer target).filterMap Event.asked? = (c.pair? target).toList := by
  obtain ⟨pattern, regime⟩ := c
  cases regime <;> rfl

theorem termSetAsked (plan : TermSet String ν) (target : Option String) :
    (plan.events scorer target).filterMap Event.asked? = plan.asked scorer target := by
  cases target with
  | none => rfl
  | some target =>
    rw [TermSet.events, TermSet.asked, List.filterMap_flatMap, List.filterMap_eq_flatMap_toList]
    exact List.flatMap_congr fun c _ => checkAsked scorer target c

theorem columnSetAsked (plan : ColumnSet String ν) (targets : List (Option String)) :
    (plan.events scorer targets).filterMap Event.asked? = plan.asked scorer targets := by
  simp only [ColumnSet.events, ColumnSet.asked, List.filterMap_flatMap, termSetAsked]

/-! ## A scorer that agrees on what is asked -/

variable {scorer} {other : Scorer ν}

theorem checkAgrees {target : String} {c : TermCheck String ν}
    (same : ∀ pair ∈ c.pair? target, other pair.1 pair.2 = scorer pair.1 pair.2) :
    c.holds other target = c.holds scorer target ∧ c.events other target = c.events scorer target := by
  obtain ⟨pattern, regime⟩ := c
  cases regime with
  | contains => exact ⟨rfl, rfl⟩
  | similarity cutoff =>
    have score : other pattern target = scorer pattern target := same (pattern, target) rfl
    simp [TermCheck.holds, TermCheck.events, score]

theorem termSetAgrees {plan : TermSet String ν} {target : Option String}
    (same : ∀ pair ∈ plan.asked scorer target, other pair.1 pair.2 = scorer pair.1 pair.2) :
    plan.holds other target = plan.holds scorer target ∧
      plan.events other target = plan.events scorer target := by
  cases target with
  | none => exact ⟨rfl, rfl⟩
  | some target =>
    have each : ∀ c ∈ plan.logic.visited (fun c => c.holds scorer target) plan.checks,
        c.holds other target = c.holds scorer target ∧ c.events other target = c.events scorer target :=
      fun c member => checkAgrees fun pair asks => same pair (List.mem_filterMap.mpr ⟨c, member, asks⟩)
    obtain ⟨places, joined⟩ := Logic.visitedAgree fun c member => (each c member).1
    refine ⟨joined, ?_⟩
    rw [TermSet.events, TermSet.events, places]
    exact List.flatMap_congr fun c member => (each c member).2

theorem columnSetAgrees {plan : ColumnSet String ν} {targets : List (Option String)}
    (same : ∀ pair ∈ plan.asked scorer targets, other pair.1 pair.2 = scorer pair.1 pair.2) :
    plan.holds other targets = plan.holds scorer targets ∧
      plan.events other targets = plan.events scorer targets := by
  have each : ∀ target ∈ plan.logic.visited (plan.termSet.holds scorer) targets,
      plan.termSet.holds other target = plan.termSet.holds scorer target ∧
        plan.termSet.events other target = plan.termSet.events scorer target :=
    fun target member => termSetAgrees fun pair asks => same pair (List.mem_flatMap.mpr ⟨target, member, asks⟩)
  obtain ⟨places, joined⟩ := Logic.visitedAgree fun target member => (each target member).1
  refine ⟨joined, ?_⟩
  rw [ColumnSet.events, ColumnSet.events, places]
  exact List.flatMap_congr fun target member => (each target member).2

end

/-! ## The run -/

namespace Matching

section
variable {ν : Type} [Scale ν] (scorer : Scorer ν)

def evaluated (terms : List String) (budget termLogic columnLogic : Value) (targets : List (Option String)) :
    Except Fault Bool × List (Event String String ν) :=
  (matchColumns (π := String) (recorded scorer) (.ok terms) budget termLogic columnLogic (.ok targets)).run

variable {budget termLogic columnLogic : Value} {terms : List String}

theorem evaluatedPlanned {plan : ColumnSet String ν}
    (planned : Plan.columnsOf (ColumnPolicy.ofValues columnLogic termLogic budget) (.ok terms) = .ok plan)
    (targets : List (Option String)) :
    evaluated scorer terms budget termLogic columnLogic targets =
      (.ok (plan.holds scorer targets), plan.events scorer targets) := by
  unfold evaluated matchColumns
  rw [settledRun, planned]
  exact leavesRun (columnSetLeaves scorer plan targets)

theorem evaluatedRefused {f : Fault}
    (refused : (Plan.columnsOf (ColumnPolicy.ofValues columnLogic termLogic budget) (.ok terms) :
      Except Fault (ColumnSet String ν)) = .error f) (targets : List (Option String)) :
    evaluated scorer terms budget termLogic columnLogic targets = (.error f, []) := by
  unfold evaluated matchColumns
  rw [settledRun, refused]

theorem queryRefused {query : Value} {f : Fault} (asked : Query.termsOf query = .ok terms)
    (refused : (Plan.termsOf (Policy.ofValues "match_logic" termLogic budget) (.ok terms) :
      Except Fault (TermSet String ν)) = .error f) (target : Option String) :
    (matchQuery (π := String) (recorded scorer) target query budget termLogic).run = (.error f, []) := by
  have rest : (matchTerms (recorded scorer) target (.ok terms) budget termLogic).run = (.error f, []) := by
    rw [matchTerms, settledRun, refused]
  rw [matchQuery, settledRun, queryPatternsOk asked]
  exact rest

theorem holdsMembers {plan again : ColumnSet String ν} {targets elsewhere : List (Option String)}
    (columnLogic : again.logic = plan.logic) (termLogic : again.termSet.logic = plan.termSet.logic)
    (checks : ∀ c, c ∈ again.termSet.checks ↔ c ∈ plan.termSet.checks)
    (places : ∀ target, target ∈ elsewhere ↔ target ∈ targets) :
    again.holds scorer elsewhere = plan.holds scorer targets := by
  have each (target : Option String) : again.termSet.holds scorer target = plan.termSet.holds scorer target := by
    cases target with
    | none => rfl
    | some target => rw [TermSet.holds, TermSet.holds, termLogic, Logic.joinMembers _ _ checks]
  rw [ColumnSet.holds, ColumnSet.holds, columnLogic, Logic.joinMembers _ _ places,
    List.map_congr_left fun target _ => each target]

/-- Evaluation gives the answer of asking everything, so order and repeats do not matter to it; the pairs
it asks a scorer for are those that are visited from the left, and no other pair matters to the run. -/
theorem evaluatedExactly (targets : List (Option String)) {plan : ColumnSet String ν}
    (planned : Plan.columnsOf (ColumnPolicy.ofValues columnLogic termLogic budget) (.ok terms) = .ok plan) :
    plan.termSet.checks.map TermCheck.pattern = terms ∧
    (evaluated scorer terms budget termLogic columnLogic targets).1 = .ok (plan.holds scorer targets) ∧
    (evaluated scorer terms budget termLogic columnLogic targets).2.filterMap Event.asked? =
      plan.asked scorer targets ∧
    (∀ (others : List String) (elsewhere : List (Option String)), (∀ term, term ∈ others ↔ term ∈ terms) →
      (∀ target, target ∈ elsewhere ↔ target ∈ targets) →
      (evaluated scorer others budget termLogic columnLogic elsewhere).1 =
        (evaluated scorer terms budget termLogic columnLogic targets).1) ∧
    ∀ other : Scorer ν,
      (∀ pair ∈ plan.asked scorer targets, other pair.1 pair.2 = scorer pair.1 pair.2) →
      evaluated other terms budget termLogic columnLogic targets =
        evaluated scorer terms budget termLogic columnLogic targets := by
  obtain ⟨policy, settled, made⟩ := Plan.columnsOfOk.mp planned
  rw [evaluatedPlanned scorer planned]
  refine ⟨Plan.plannedPatterns made, rfl, columnSetAsked scorer plan targets, ?_, ?_⟩
  · intro others elsewhere sameTerms sameTargets
    obtain ⟨again, remade, checks⟩ := Plan.plannedMembers made sameTerms
    rw [evaluatedPlanned scorer (Plan.columnsOfOk.mpr ⟨policy, settled, remade⟩)]
    have columns : again.logic = plan.logic := remade.columnLogic.trans made.columnLogic.symm
    have terms : again.termSet.logic = plan.termSet.logic := remade.termLogic.trans made.termLogic.symm
    exact congrArg Except.ok (holdsMembers scorer columns terms checks sameTargets)
  · intro other same
    obtain ⟨answer, record⟩ := columnSetAgrees same
    rw [evaluatedPlanned other planned, answer, record]

end

def equality : Scorer Number.Binary64 := fun pattern target => if pattern = target then 1 else 0

theorem evaluatedUpToThird :
    (evaluated equality ["Anna", "Bo", "Carl"] (.int 1) (.text "OR") (.text "OR")
      [none, some "Karl", some "Carl", some "Anna"]).1 = .ok true ∧
    (evaluated equality ["Anna", "Bo", "Carl"] (.int 1) (.text "OR") (.text "OR")
      [none, some "Karl", some "Carl", some "Anna"]).2.filterMap Event.asked? =
      [("Anna", "Karl"), ("Carl", "Karl"), ("Anna", "Carl"), ("Carl", "Carl")] := by
  have planned : Plan.columnsOf (ColumnPolicy.ofValues (.text "OR") (.text "OR") (.int 1))
      (.ok ["Anna", "Bo", "Carl"]) = .ok (⟨.or, ⟨.or, [⟨"Anna", .similarity (.finite false (2 ^ 1073))⟩,
        ⟨"Bo", .contains⟩, ⟨"Carl", .similarity (.finite false (2 ^ 1073))⟩]⟩⟩ :
        ColumnSet String Number.Binary64) := Outcome.optionOk (by decide +kernel)
  obtain ⟨_, answer, asked, _⟩ :=
    evaluatedExactly equality [none, some "Karl", some "Carl", some "Anna"] planned
  rw [answer, asked]
  exact ⟨congrArg Except.ok (by decide +kernel), by decide +kernel⟩

end Matching
end TypoSearch
