import TypoSearch.Proofs.Matching.ShortCircuit
import TypoSearch.Proofs.Similarity.Tolerance

/-! A larger budget of typos matches no less, in exact numbers, in which no budget is too large. A larger
budget lowers every cutoff; and a term that was contained under no budget at all is aligned without a
loss, so it reaches every cutoff that a budget brings with it. -/
namespace TypoSearch
open Outcome (bindOk mapEach)
open Similarity (Measure Scorer)

namespace Logic

theorem joinRaised {α : Type} {l : Logic} {answer other : α → Bool} {xs : List α}
    (each : ∀ x ∈ xs, answer x = true → other x = true) (joined : l.join (xs.map answer) = true) :
    l.join (xs.map other) = true := by
  rw [joinTrue] at joined ⊢
  cases l with
  | and => exact fun x member => each x member (joined x member)
  | or =>
    obtain ⟨x, member, holds⟩ := joined
    exact ⟨x, member, each x member holds⟩

end Logic

namespace Plan

def exactCheck (typos : Nat) (pattern : String) : TermCheck String Rat :=
  if pattern.length < trigramLength ∨ typos = 0 then ⟨pattern, .contains⟩
  else ⟨pattern, .similarity (Scale.survivors (pattern.length : Rat)
    ((typos + extraTypos pattern.length : Nat) : Rat))⟩

theorem exactContains {typos : Nat} {pattern : String} (easy : pattern.length < trigramLength ∨ typos = 0) :
    exactCheck typos pattern = ⟨pattern, .contains⟩ := if_pos easy

theorem exactSimilarity {typos : Nat} {pattern : String} (long : trigramLength ≤ pattern.length)
    (nonzero : typos ≠ 0) : exactCheck typos pattern = ⟨pattern, .similarity
      (Scale.survivors (pattern.length : Rat) ((typos + extraTypos pattern.length : Nat) : Rat))⟩ :=
  if_neg (by omega)

theorem termExact (typos : Nat) (pattern : String) :
    (term typos pattern : Except Fault (TermCheck String Rat)) = .ok (exactCheck typos pattern) := by
  by_cases easy : pattern.length < trigramLength ∨ typos = 0
  · rw [exactContains easy, termEasy easy]
  · have long : trigramLength ≤ pattern.length := by omega
    have nonzero : typos ≠ 0 := by omega
    rw [exactSimilarity long nonzero, termHard long nonzero, Cutoff.ofLengthSteps long]
    rfl

theorem termsExact (policy : Policy) (patterns : List String) :
    (terms policy patterns : Except Fault (TermSet String Rat)) =
      .ok ⟨policy.termLogic, patterns.map (exactCheck policy.typos)⟩ := by
  unfold terms
  rw [mapEach fun p _ => termExact policy.typos p]
  rfl

theorem columnsExact (policy : ColumnPolicy) (patterns : List String) :
    (columns policy patterns : Except Fault (ColumnSet String Rat)) =
      .ok ⟨policy.columnLogic, ⟨policy.terms.termLogic, patterns.map (exactCheck policy.terms.typos)⟩⟩ := by
  unfold columns
  rw [termsExact]
  rfl

end Plan

namespace Similarity

theorem survivorsAntitone (n : Nat) {j k : Nat} (le : j ≤ k) :
    Scale.survivors (n : Rat) (k : Rat) ≤ Scale.survivors (n : Rat) (j : Rat) := by
  rw [Cutoff.survivorsExact, Cutoff.survivorsExact]
  exact max_le_max_left 0 (Cutoff.survivingFalls n le)

end Similarity

namespace Matching
open Plan (exactCheck exactContains exactSimilarity)

def aligned : Scorer Rat := Measure.partialRatio.scorer

section
variable {typos more : Nat}

theorem checkRaised (le : typos ≤ more) (pattern target : String)
    (matched : (exactCheck typos pattern).holds aligned target = true) :
    (exactCheck more pattern).holds aligned target = true := by
  by_cases short : pattern.length < trigramLength
  · rw [exactContains (.inl short)] at matched ⊢
    exact matched
  · have long : trigramLength ≤ pattern.length := by omega
    by_cases none : more = 0
    · have same : typos = more := by omega
      rw [← same]
      exact matched
    · rw [exactSimilarity long none]
      by_cases first : typos = 0
      · -- The pattern stands in the target as it is, so no typo separates it from a part.
        rw [exactContains (.inr first)] at matched
        exact Similarity.scoreReached long ((Text.occursInfix _ _).mp matched) (.same 0 _) (Nat.zero_le _)
      · rw [exactSimilarity long first] at matched
        have reached : Scale.survivors (pattern.length : Rat)
            ((typos + extraTypos pattern.length : Nat) : Rat) ≤ aligned pattern target := of_decide_eq_true matched
        exact decide_eq_true (le_trans (Similarity.survivorsAntitone _ (Nat.add_le_add_right le _)) reached)

theorem termSetRaised (le : typos ≤ more) {l : Logic} {terms : List String} {target : Option String}
    (matched : (⟨l, terms.map (exactCheck typos)⟩ : TermSet String Rat).holds aligned target = true) :
    (⟨l, terms.map (exactCheck more)⟩ : TermSet String Rat).holds aligned target = true := by
  cases target with
  | none => exact matched
  | some target =>
    simp only [TermSet.holds, List.map_map] at matched ⊢
    exact Logic.joinRaised (fun pattern _ => checkRaised le pattern target) matched

theorem columnSetRaised (le : typos ≤ more) {columns l : Logic} {terms : List String}
    {targets : List (Option String)}
    (matched : (⟨columns, ⟨l, terms.map (exactCheck typos)⟩⟩ : ColumnSet String Rat).holds aligned targets =
      true) :
    (⟨columns, ⟨l, terms.map (exactCheck more)⟩⟩ : ColumnSet String Rat).holds aligned targets = true :=
  Logic.joinRaised (fun _ _ => termSetRaised le) matched

end

/-! ## What a match says of its arguments -/

section
variable {scorer : Scorer Rat} {target : Option String} {budget termLogic columnLogic : Value}

theorem matchTermTrue {pattern : String} :
    (matchTerm (recorded scorer) target pattern budget).run.1 = .ok true ↔
      ∃ typos : Nat, budget = .int typos ∧ target.any ((exactCheck typos pattern).holds scorer) = true := by
  simp only [matchTerm, settledOk, Plan.termOf, bindOk, Budget.ofValueOk, Plan.termExact, termAnswer,
    matchesTermHolds, Except.ok.injEq]
  constructor
  · rintro ⟨_, ⟨typos, given, rfl⟩, matched⟩
    exact ⟨typos, given, matched⟩
  · rintro ⟨typos, given, matched⟩
    exact ⟨_, ⟨typos, given, rfl⟩, matched⟩

theorem matchTermsTrue {terms : List String} :
    (matchTerms (recorded scorer) target (.ok terms) budget termLogic).run.1 = .ok true ↔
      ∃ policy : Policy, termLogic = .text policy.termLogic.word ∧ budget = .int policy.typos ∧
        (⟨policy.termLogic, terms.map (exactCheck policy.typos)⟩ : TermSet String Rat).holds scorer target =
          true := by
  simp only [matchTerms, settledOk, Plan.termsOf, bindOk, Policy.ofValuesOk, Plan.termsExact,
    termSetAnswer, matchesTermsHolds, Except.ok.injEq, exists_eq_left']
  constructor
  · rintro ⟨_, ⟨policy, ⟨logic, given⟩, rfl⟩, matched⟩
    exact ⟨policy, logic, given, matched⟩
  · rintro ⟨policy, logic, given, matched⟩
    exact ⟨_, ⟨policy, ⟨logic, given⟩, rfl⟩, matched⟩

theorem queryPatternsTexts (query : Value) :
    (queryPatterns query : Except Fault (List String)) = Query.termsOf query := by
  cases asked : Query.termsOf query with
  | ok terms => exact queryPatternsOk asked
  | error f =>
    unfold queryPatterns
    rw [asked]
    rfl

theorem matchQueryTrue {query : Value} :
    (matchQuery (π := String) (recorded scorer) target query budget termLogic).run.1 = .ok true ↔
      ∃ terms, Query.termsOf query = .ok terms ∧
        (matchTerms (recorded scorer) target (.ok terms) budget termLogic).run.1 = .ok true := by
  simp only [matchQuery, settledOk, queryPatternsTexts]

theorem matchColumnsTrue {terms : List String} {targets : List (Option String)} :
    (matchColumns (recorded scorer) (.ok terms) budget termLogic columnLogic (.ok targets)).run.1 = .ok true ↔
      ∃ policy : ColumnPolicy, columnLogic = .text policy.columnLogic.word ∧
        termLogic = .text policy.terms.termLogic.word ∧ budget = .int policy.terms.typos ∧
        (⟨policy.columnLogic, ⟨policy.terms.termLogic, terms.map (exactCheck policy.terms.typos)⟩⟩ :
          ColumnSet String Rat).holds scorer targets = true := by
  simp only [matchColumns, settledOk, Plan.columnsOf, bindOk, ColumnPolicy.ofValuesOk, Plan.columnsExact,
    columnSetAnswer, matchesColumnsHolds, Except.ok.injEq, exists_eq_left']
  constructor
  · rintro ⟨_, ⟨policy, ⟨columns, logic, given⟩, rfl⟩, matched⟩
    exact ⟨policy, columns, logic, given, matched⟩
  · rintro ⟨policy, columns, logic, given, matched⟩
    exact ⟨_, ⟨policy, ⟨columns, logic, given⟩, rfl⟩, matched⟩

theorem matchColumnsQueryTrue {query : Value} {targets : List (Option String)} :
    (matchColumnsQuery (π := String) (recorded scorer) query budget termLogic columnLogic (.ok targets)).run.1 =
        .ok true ↔
      ∃ terms, Query.termsOf query = .ok terms ∧
        (matchColumns (recorded scorer) (.ok terms) budget termLogic columnLogic (.ok targets)).run.1 =
          .ok true := by
  simp only [matchColumnsQuery, settledOk, queryPatternsTexts]

end

section
variable {typos more : Int}

theorem matchTermRaised (le : typos ≤ more) {target : Option String} {pattern : String}
    (matched : (matchTerm (recorded aligned) target pattern (.int typos)).run.1 = .ok true) :
    (matchTerm (recorded aligned) target pattern (.int more)).run.1 = .ok true := by
  obtain ⟨least, given, holds⟩ := matchTermTrue.mp matched
  cases given
  obtain ⟨most, rfl⟩ := Int.eq_ofNat_of_zero_le (le_trans (Int.natCast_nonneg least) le)
  refine matchTermTrue.mpr ⟨most, rfl, ?_⟩
  cases target with
  | none => exact holds
  | some target => exact checkRaised (Int.ofNat_le.mp le) pattern target holds

theorem matchTermsRaised (le : typos ≤ more) {target : Option String} {terms : List String}
    {termLogic : Value}
    (matched : (matchTerms (recorded aligned) target (.ok terms) (.int typos) termLogic).run.1 = .ok true) :
    (matchTerms (recorded aligned) target (.ok terms) (.int more) termLogic).run.1 = .ok true := by
  obtain ⟨⟨l, least⟩, logic, given, holds⟩ := matchTermsTrue.mp matched
  cases given
  obtain ⟨most, rfl⟩ := Int.eq_ofNat_of_zero_le (le_trans (Int.natCast_nonneg least) le)
  exact matchTermsTrue.mpr ⟨⟨l, most⟩, logic, rfl, termSetRaised (Int.ofNat_le.mp le) holds⟩

theorem matchColumnsRaised (le : typos ≤ more) {targets : List (Option String)} {terms : List String}
    {termLogic columnLogic : Value}
    (matched : (matchColumns (recorded aligned) (.ok terms) (.int typos) termLogic columnLogic
      (.ok targets)).run.1 = .ok true) :
    (matchColumns (recorded aligned) (.ok terms) (.int more) termLogic columnLogic (.ok targets)).run.1 =
      .ok true := by
  obtain ⟨⟨columns, ⟨l, least⟩⟩, columnWord, termWord, given, holds⟩ := matchColumnsTrue.mp matched
  cases given
  obtain ⟨most, rfl⟩ := Int.eq_ofNat_of_zero_le (le_trans (Int.natCast_nonneg least) le)
  exact matchColumnsTrue.mpr
    ⟨⟨columns, ⟨l, most⟩⟩, columnWord, termWord, rfl, columnSetRaised (Int.ofNat_le.mp le) holds⟩

theorem budgetRaised (le : typos ≤ more) :
    (∀ (target : Option String) (pattern : String),
      (matchTerm (recorded aligned) target pattern (.int typos)).run.1 = .ok true →
        (matchTerm (recorded aligned) target pattern (.int more)).run.1 = .ok true) ∧
    (∀ (target : Option String) (terms : List String) (termLogic : Value),
      (matchTerms (recorded aligned) target (.ok terms) (.int typos) termLogic).run.1 = .ok true →
        (matchTerms (recorded aligned) target (.ok terms) (.int more) termLogic).run.1 = .ok true) ∧
    (∀ (target : Option String) (query termLogic : Value),
      (matchQuery (π := String) (recorded aligned) target query (.int typos) termLogic).run.1 = .ok true →
        (matchQuery (π := String) (recorded aligned) target query (.int more) termLogic).run.1 = .ok true) ∧
    ∀ (targets : List (Option String)) (query termLogic columnLogic : Value),
      (matchColumnsQuery (π := String) (recorded aligned) query (.int typos) termLogic columnLogic
        (.ok targets)).run.1 = .ok true →
        (matchColumnsQuery (π := String) (recorded aligned) query (.int more) termLogic columnLogic
          (.ok targets)).run.1 = .ok true := by
  refine ⟨fun _ _ => matchTermRaised le, fun _ _ _ => matchTermsRaised le, ?_, ?_⟩
  · intro target query termLogic matched
    obtain ⟨terms, asked, holds⟩ := matchQueryTrue.mp matched
    exact matchQueryTrue.mpr ⟨terms, asked, matchTermsRaised le holds⟩
  · intro targets query termLogic columnLogic matched
    obtain ⟨terms, asked, holds⟩ := matchColumnsQueryTrue.mp matched
    exact matchColumnsQueryTrue.mpr ⟨terms, asked, matchColumnsRaised le holds⟩

end

theorem budgetRaisedFromNone :
    (matchColumnsQuery (π := String) (recorded aligned) (.text "kitchen CHAIR") (.int 0) (.text "AND")
      (.text "OR") (.ok [none, some "Kitchen chairs"])).run.1 = .ok true ∧
    (matchColumnsQuery (π := String) (recorded aligned) (.text "kitchen CHAIR") (.int 1) (.text "AND")
      (.text "OR") (.ok [none, some "Kitchen chairs"])).run.1 = .ok true := by
  have contained : (matchColumnsQuery (π := String) (recorded aligned) (.text "kitchen CHAIR") (.int 0)
      (.text "AND") (.text "OR") (.ok [none, some "Kitchen chairs"])).run.1 = .ok true :=
    Outcome.optionOk (by decide +kernel)
  exact ⟨contained, (budgetRaised (by decide)).2.2.2 _ _ _ _ contained⟩

end Matching
end TypoSearch
