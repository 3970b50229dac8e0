import TypoSearch.Proofs.Similarity.Alignment
import TypoSearch.Proofs.Similarity.TokenSet

/-! Laws of the named measures, in exact numbers. Every measure is a part of a whole that is not empty, from zero
to one, and the same whichever of both texts is the pattern. The two measures of characters reach one for texts
that stand in each other, or are the same, and zero for texts without a common character. -/
namespace TypoSearch.Similarity
namespace Measure

def weighed : Measure → List Char → List Char → List Share
  | partialRatio, as, bs =>
    (if as.length ≤ bs.length then (windows as bs).map (Share.ofTexts as) else []) ++
      (if bs.length ≤ as.length then (windows bs as).map (Share.ofTexts bs) else [])
  | ratio, as, bs => [Share.ofTexts as bs]
  | tokenSetRatio, as, bs => [restShare as bs, sideShare as bs, sideShare bs as]

section
variable {as bs : List Char}

theorem windowSound (some : 0 < as.length) :
    ∀ s ∈ (windows as bs).map (Share.ofTexts as), s.Sound := by
  intro s member
  obtain ⟨part, _, rfl⟩ := List.mem_map.mp member
  exact Share.ofTextsSound some part

theorem weighedSound (m : Measure) (some : 0 < as.length) (other : 0 < bs.length) :
    ∀ s ∈ m.weighed as bs, s.Sound := by
  intro s member
  cases m with
  | partialRatio =>
    rcases List.mem_append.mp member with first | second
    · split at first
      · exact windowSound some s first
      · cases first
    · split at second
      · exact windowSound other s second
      · cases second
  | ratio =>
    rw [List.mem_singleton.mp member]
    exact Share.ofTextsSound some bs
  | tokenSetRatio =>
    simp only [weighed, List.mem_cons, List.not_mem_nil, or_false] at member
    rcases member with rfl | rfl | rfl
    · exact restShareSound as bs
    · exact sideShareSound as bs
    · exact sideShareSound bs as

theorem shareWeighed (m : Measure) (as bs : List Char) :
    m.share as bs ∈ .nothing :: .everything :: m.weighed as bs := by
  cases m with
  | partialRatio =>
    have window (cs ds : List Char) : bestWindow cs ds = .nothing ∨
        bestWindow cs ds ∈ (windows cs ds).map (Share.ofTexts cs) := Share.bestMember _
    rw [share]
    rcases alignmentEither as bs with ⟨fits, best⟩ | ⟨fits, best⟩
    · rcases window as bs with none | member
      · simp [best, none]
      · simp [best, weighed, fits, member]
    · rcases window bs as with none | member
      · simp [best, none]
      · simp [best, weighed, fits, member]
  | ratio => simp [share, weighed]
  | tokenSetRatio => exact tokenSetWeighed as bs

theorem shareSound (m : Measure) (some : 0 < as.length) (other : 0 < bs.length) : (m.share as bs).Sound := by
  rcases List.mem_cons.mp (m.shareWeighed as bs) with nothing | rest
  · rw [nothing]
    exact Share.nothingSound
  · rcases List.mem_cons.mp rest with everything | member
    · rw [everything]
      exact Share.everythingSound
    · exact m.weighedSound some other _ member

structure Dividing (m : Measure) (as bs : List Char) : Prop where
  weighed : m.share as bs ∈ .nothing :: .everything :: m.weighed as bs
  totals : ∀ s ∈ m.share as bs :: m.weighed as bs, s.total ≠ 0

theorem dividing (m : Measure) (some : 0 < as.length) (other : 0 < bs.length) : m.Dividing as bs where
  weighed := m.shareWeighed as bs
  totals s member := by
    rcases List.mem_cons.mp member with rfl | weighed
    · exact (m.shareSound some other).some.ne'
    · exact (m.weighedSound some other s weighed).some.ne'

theorem shareSwapped (m : Measure) (some : 0 < as.length) (other : 0 < bs.length) :
    (m.share as bs).kept = (m.share bs as).kept := by
  cases m with
  | partialRatio => exact alignmentSwapped some other
  | ratio =>
    rw [share, share, Share.ofTexts, Share.ofTexts, indelSwapped, Nat.add_comm]
  | tokenSetRatio => exact tokenSetSwapped as bs

end

/-! ## Measures of texts -/

section
variable (m : Measure) {pattern target : String}

theorem scoreVoid (void : pattern = "" ∨ target = "") : (m.scorer : Scorer Rat) pattern target = 0 := by
  have empty : (pattern.isEmpty || target.isEmpty) = true := by simpa using void
  rw [scorer, if_pos empty]
  rfl

theorem scoreKept (some : pattern ≠ "") (other : target ≠ "") : (m.scorer : Scorer Rat) pattern target =
    (m.share (Text.lower pattern).toList (Text.lower target).toList).kept := by
  have filled : (pattern.isEmpty || target.isEmpty) ≠ true := by simp [some, other]
  rw [scorer, if_neg filled, Text.lowerToList, Text.lowerToList]
  cases m <;> rfl

theorem lowerSome (some : pattern ≠ "") : 0 < (Text.lower pattern).toList.length := by
  rw [Text.lowerToList]
  exact lowerPositive some

theorem scoreBounded (pattern target : String) :
    0 ≤ (m.scorer : Scorer Rat) pattern target ∧ (m.scorer : Scorer Rat) pattern target ≤ 1 := by
  by_cases void : pattern = "" ∨ target = ""
  · rw [scoreVoid m void]
    exact ⟨le_refl 0, zero_le_one⟩
  · obtain ⟨some, other⟩ := not_or.mp void
    rw [scoreKept m some other]
    exact Share.soundKept (m.shareSound (lowerSome some) (lowerSome other))

theorem scoreSwapped (pattern target : String) :
    (m.scorer : Scorer Rat) pattern target = m.scorer target pattern := by
  by_cases void : pattern = "" ∨ target = ""
  · rw [scoreVoid m void, scoreVoid m void.symm]
  · obtain ⟨some, other⟩ := not_or.mp void
    rw [scoreKept m some other, scoreKept m other some, m.shareSwapped (lowerSome some) (lowerSome other)]

end

/-- Every measure is a number from zero to one that divides by no empty whole and is the same both ways. The
best alignment is one exactly if the shorter text stands in the longer one, and the ratio if the texts are the
same; either is zero exactly if the texts have no character in common. -/
theorem measureLaws (pattern target : String) :
    (∀ m : Measure, (0 ≤ (m.scorer : Scorer Rat) pattern target ∧ (m.scorer : Scorer Rat) pattern target ≤ 1) ∧
      (m.scorer : Scorer Rat) pattern target = m.scorer target pattern) ∧
    (pattern ≠ "" → target ≠ "" →
      (∀ m : Measure, m.Dividing (Text.lower pattern).toList (Text.lower target).toList) ∧
      ((partialRatio.scorer : Scorer Rat) pattern target = 1 ↔
        ShorterInside (Text.lower pattern).toList (Text.lower target).toList) ∧
      ((ratio.scorer : Scorer Rat) pattern target = 1 ↔ Text.lower pattern = Text.lower target) ∧
      ((partialRatio.scorer : Scorer Rat) pattern target = 0 ↔
        ∀ c ∈ (Text.lower pattern).toList, c ∉ (Text.lower target).toList) ∧
      ((ratio.scorer : Scorer Rat) pattern target = 0 ↔
        ∀ c ∈ (Text.lower pattern).toList, c ∉ (Text.lower target).toList)) := by
  refine ⟨fun m => ⟨m.scoreBounded pattern target, m.scoreSwapped pattern target⟩, fun some other => ?_⟩
  have first := lowerSome some
  have second := lowerSome other
  simp only [scoreKept _ some other]
  refine ⟨fun m => m.dividing first second, alignmentWhole first second, ?_, alignmentNone first second,
    Share.ofTextsNone first⟩
  rw [share, Share.ofTextsWhole first, String.toList_inj]

theorem measureLawsCat :
    ("CAT" ≠ "" ∧ "Concat" ≠ "" ∧ (partialRatio.scorer : Scorer Rat) "CAT" "Concat" = 1 ∧
      (ratio.scorer : Scorer Rat) "CAT" "Concat" ≠ 1) ∧
    "Dog" ≠ "" ∧ (partialRatio.scorer : Scorer Rat) "Dog" "CAT" = 0 := by
  have cat : (Text.lower "CAT").toList = ['c', 'a', 't'] := by decide +kernel
  have concat : (Text.lower "Concat").toList = ['c', 'o', 'n'] ++ ['c', 'a', 't'] := by decide +kernel
  have dog : (Text.lower "Dog").toList = ['d', 'o', 'g'] := by decide +kernel
  obtain ⟨_, whole, same, _, _⟩ := (measureLaws "CAT" "Concat").2 (by decide) (by decide)
  obtain ⟨_, _, _, none, _⟩ := (measureLaws "Dog" "CAT").2 (by decide) (by decide)
  refine ⟨⟨by decide, by decide, whole.mpr ⟨fun _ => ?_, fun longer => ?_⟩, fun one => ?_⟩, by decide, none.mpr ?_⟩
  · rw [cat, concat]
    exact (List.suffix_append _ _).isInfix
  · rw [cat, concat] at longer
    exact absurd longer (by decide)
  · have equal := congrArg String.toList (same.mp one)
    rw [cat, concat] at equal
    exact absurd equal (by decide)
  · rw [dog, cat]
    simp

end Measure
end TypoSearch.Similarity
