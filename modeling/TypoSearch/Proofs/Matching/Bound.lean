import TypoSearch.Proofs.Matching.Budget

/-! What a budget of typos keeps out. A target that has no character in common with a pattern has no window
that the pattern could be aligned with, and nothing of the pattern is kept. It is matched all the same where
the budget takes the cutoff down to zero, which is where three trigrams for each typo are all that there are. -/
namespace TypoSearch

namespace Similarity

section
variable {short long : List Char}

theorem beginningsInside {size : Nat} {part : List Char} (member : part ∈ beginnings size long) :
    part.Sublist long := by
  obtain ⟨i, _, rfl⟩ := List.mem_map.mp member
  exact List.take_sublist i long

theorem slidesInside {size : Nat} {part : List Char} (member : part ∈ slides size long) :
    part.Sublist long := by
  obtain ⟨i, _, rfl⟩ := List.mem_map.mp member
  exact (List.take_sublist size _).trans (List.drop_sublist i long)

theorem endingsInside {size : Nat} {part : List Char} (member : part ∈ endings size long) :
    part.Sublist long := by
  obtain ⟨i, _, rfl⟩ := List.mem_map.mp member
  exact List.drop_sublist i long

theorem foreignEnd (foreign : ∀ c ∈ short, c ∉ long) {part : List Char} (inside : part.Sublist long) :
    endsWithin short part = false ∧ startsWithin short part = false := by
  have apart (c : Char) (member : c ∈ part) : short.contains c = false := by
    refine Bool.eq_false_iff.mpr fun within => ?_
    exact foreign c (List.contains_iff_mem.mp within) (inside.subset member)
  constructor
  · cases last : part.getLast? with
    | none => simp [endsWithin, last]
    | some c => simpa [endsWithin, last] using apart c (List.mem_of_getLast? last)
  · cases head : part.head? with
    | none => simp [startsWithin, head]
    | some c => simpa [startsWithin, head] using apart c (List.mem_of_head? head)

theorem foreignWindows (foreign : ∀ c ∈ short, c ∉ long) : windows short long = [] := by
  rw [windows, List.append_eq_nil_iff, List.filter_eq_nil_iff, List.filter_eq_nil_iff]
  constructor
  · intro part member
    rcases List.mem_append.mp member with begins | slides
    · simp [(foreignEnd foreign (beginningsInside begins)).1]
    · simp [(foreignEnd foreign (slidesInside slides)).1]
  · intro part member
    simp [(foreignEnd foreign (endingsInside member)).2]

end

theorem foreignAlignment {as bs : List Char} (foreign : ∀ c ∈ as, c ∉ bs) :
    bestAlignment as bs = .nothing := by
  have first : bestWindow as bs = .nothing := by
    rw [bestWindow, foreignWindows foreign]
    rfl
  have second : bestWindow bs as = .nothing := by
    rw [bestWindow, foreignWindows fun c member within => foreign c within member]
    rfl
  rw [bestAlignment, first, second]
  split
  · rfl
  · split <;> rfl

theorem foreignScore {pattern target : String} (some : pattern ≠ "")
    (foreign : ∀ c ∈ Text.lowerChars pattern.toList, c ∉ Text.lowerChars target.toList) :
    (Measure.partialRatio.scorer : Scorer Rat) pattern target = 0 := by
  by_cases empty : target = ""
  · rw [empty, scorerEmpty]
  · rw [scorerKept some empty, foreignAlignment foreign, Share.nothingKept]

end Similarity

namespace Matching
open Plan (exactCheck exactContains exactSimilarity termExact)

theorem matchTermExact (scorer : Similarity.Scorer Rat) (target pattern : String) (typos : Nat) :
    (matchTerm (recorded scorer) (some target) pattern (.int typos)).run.1 =
      .ok ((exactCheck typos pattern).holds scorer target) := by
  have planned : (Plan.termOf (.int typos) pattern : Except Fault (TermCheck String Rat)) =
      .ok (exactCheck typos pattern) := termExact typos pattern
  rw [matchTermAnswer scorer planned, matchesTermHolds, Option.any_some]

theorem foreignMatched {target pattern : String} (long : 3 ≤ pattern.length)
    (foreign : ∀ c ∈ (Text.lower pattern).toList, c ∉ (Text.lower target).toList) (typos : Nat) :
    (matchTerm (recorded aligned) (some target) pattern (.int typos)).run.1 =
      .ok (decide (typos ≠ 0 ∧ pattern.length + 2 ≤ 3 * (typos + extraTypos pattern.length))) := by
  rw [Text.lowerToList, Text.lowerToList] at foreign
  have some : pattern ≠ "" := by
    rintro rfl
    exact absurd long (by decide)
  rw [matchTermExact]
  refine congrArg Except.ok (Bool.eq_iff_iff.mpr ?_)
  rw [decide_eq_true_eq]
  by_cases none : typos = 0
  · rw [exactContains (.inr none)]
    have letters := Similarity.lowerPositive some
    refine iff_of_false (fun contained => ?_) (fun both => both.1 none)
    have stands := (Text.occursInfix _ _).mp contained
    obtain ⟨c, member⟩ := List.exists_mem_of_length_pos letters
    exact foreign c member (stands.subset member)
  · rw [exactSimilarity long none, ← Similarity.survivorsVanish]
    have score : aligned pattern target = 0 := Similarity.foreignScore some foreign
    have reached : Scale.atLeast (aligned pattern target) (Scale.survivors (pattern.length : Rat)
        ((typos + extraTypos pattern.length : Nat) : Rat)) = true ↔ Scale.survivors (pattern.length : Rat)
        ((typos + extraTypos pattern.length : Nat) : Rat) ≤ (0 : Rat) := by
      rw [score]
      exact decide_eq_true_iff
    exact ⟨fun held => ⟨none, reached.mp held⟩, fun both => reached.mpr both.2⟩

theorem foreignApart {as bs : List Char} (apart : (as.all fun c => !bs.contains c) = true) :
    ∀ c ∈ as, c ∉ bs := by
  simpa using apart

theorem foreignMatchedFive :
    (matchTerm (recorded aligned) (some "Brown") "Shelf" (.int 2)).run.1 = .ok false ∧
      (matchTerm (recorded aligned) (some "Brown") "Shelf" (.int 3)).run.1 = .ok true := by
  have foreign : ∀ c ∈ (Text.lower "Shelf").toList, c ∉ (Text.lower "Brown").toList :=
    foreignApart (by decide +kernel)
  exact ⟨foreignMatched (by decide) foreign 2, foreignMatched (by decide) foreign 3⟩

theorem foreignAdmitted :
    3 ≤ "abc".length ∧ 2 < "abc".length ∧
      (∀ c ∈ (Text.lower "abc").toList, c ∉ (Text.lower "xyz").toList) ∧
      (matchTerm (recorded aligned) (some "xyz") "abc" (.int 2)).run.1 = .ok true :=
  ⟨by decide, by decide, foreignApart (by decide +kernel), Outcome.optionOk (by decide +kernel)⟩

end Matching
end TypoSearch
