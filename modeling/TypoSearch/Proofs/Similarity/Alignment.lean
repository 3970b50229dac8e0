import Mathlib.Order.Bounds.Basic
import TypoSearch.Proofs.Similarity.Share
import TypoSearch.Proofs.Similarity.Tolerance

/-! The best alignment among all parts of the longer text, passed over or not. The measure looks at the parts
whose outer character belongs to the shorter text; the greatest resemblance of any part is among them, or
else no part has a character of the shorter text. -/
namespace TypoSearch.Similarity

/-! ## All parts -/

inductive Part (size : Nat) (long part : List Char) : Prop
  | beginning (some : part ≠ []) (less : part.length < size) (begins : part <+: long)
  | within (length : part.length = size) (inside : part <:+: long)
  | ending (some : part ≠ []) (less : part.length < size) (ends : part <:+ long)

def LongestCommon (as bs : List Char) (size : Nat) : Prop :=
  IsGreatest {n | ∃ us : List Char, us.Sublist as ∧ us.Sublist bs ∧ us.length = n} size

def Resemblance (as bs : List Char) (x : Rat) : Prop :=
  ∃ size, LongestCommon as bs size ∧ x = 2 * size / (as.length + bs.length)

def BestPart (short long : List Char) (x : Rat) : Prop :=
  IsGreatest {y | ∃ part, Part short.length long part ∧ Resemblance short part y} x

def ShorterInside (as bs : List Char) : Prop :=
  (as.length ≤ bs.length → as <:+: bs) ∧ (bs.length ≤ as.length → bs <:+: as)

theorem longestCommon (as bs : List Char) : LongestCommon as bs (subsequence as bs) := by
  refine ⟨commonReached as bs, ?_⟩
  rintro n ⟨us, first, second, rfl⟩
  exact commonAtMost first second

section
variable {short long part : List Char}

theorem resemblanceKept (some : 0 < short.length) {x : Rat} :
    Resemblance short part x ↔ x = (Share.ofTexts short part).kept := by
  rw [Share.ofTextsKept some]
  constructor
  · rintro ⟨size, longest, rfl⟩
    rw [longest.unique (longestCommon short part)]
  · rintro rfl
    exact ⟨_, longestCommon short part, rfl⟩

theorem partInside {size : Nat} (aligns : Part size long part) : part <:+: long := by
  cases aligns with
  | beginning _ _ begins => exact begins.isInfix
  | within _ inside => exact inside
  | ending _ _ ends => exact ends.isInfix

theorem partAligned (some : 0 < short.length) (fits : short.length ≤ long.length)
    (aligns : Part short.length long part) : Covered short long part := by
  cases aligns with
  | beginning _ less begins =>
    rw [List.prefix_iff_eq_take.mp begins]
    exact beginningCovered some less fits
  | within length inside => exact partCovered some inside length
  | ending _ less ends =>
    rw [List.suffix_iff_eq_drop.mp ends]
    exact endingCovered some fits (Nat.le_of_lt less)

theorem windowAligns (some : 0 < short.length) (fits : short.length ≤ long.length)
    (member : part ∈ windows short long) : Part short.length long part := by
  simp only [windows, List.mem_append, List.mem_filter] at member
  rcases member with ⟨begins | slides, _⟩ | ⟨ends, _⟩
  · obtain ⟨i, range, rfl⟩ := List.mem_map.mp begins
    have bounds := List.mem_range'_1.mp range
    have length : (long.take i).length = i := by
      rw [List.length_take]
      omega
    refine .beginning ?_ (by omega) (List.take_prefix i long)
    exact List.ne_nil_of_length_pos (by omega)
  · obtain ⟨i, range, rfl⟩ := List.mem_map.mp slides
    have bound := List.mem_range.mp range
    refine .within ?_ ((List.take_prefix _ _).isInfix.trans (List.drop_suffix i long).isInfix)
    rw [List.length_take, List.length_drop]
    omega
  · obtain ⟨i, range, rfl⟩ := List.mem_map.mp ends
    have bounds := List.mem_range'_1.mp range
    have length : (long.drop i).length = long.length - i := List.length_drop
    by_cases whole : i = long.length - short.length
    · exact .within (by omega) (List.drop_suffix i long).isInfix
    · exact .ending (List.ne_nil_of_length_pos (by omega)) (by omega) (List.drop_suffix i long)

/-- One of the parts reaches the best window, and it may be one that is passed over. -/
theorem bestWindowReached (some : 0 < short.length) (fits : short.length ≤ long.length) :
    ∃ part, Part short.length long part ∧ (bestWindow short long).kept = (Share.ofTexts short part).kept := by
  rcases Share.bestMember ((windows short long).map (Share.ofTexts short)) with none | member
  · have first : Part short.length long (long.take short.length) := by
      refine .within ?_ (List.take_prefix _ long).isInfix
      rw [List.length_take]
      omega
    have zero : (bestWindow short long).kept = 0 := by
      rw [bestWindow, none, Share.nothingKept]
    have covered := partAligned some fits first
    have least : 0 ≤ (Share.ofTexts short (long.take short.length)).kept := by
      rw [Share.ofTextsKept some]
      positivity
    rw [Covered, zero] at covered
    exact ⟨_, first, zero.trans (le_antisymm least covered)⟩
  · obtain ⟨part, window, reached⟩ := List.mem_map.mp member
    exact ⟨part, windowAligns some fits window, congrArg Share.kept reached.symm⟩

theorem bestWindowGreatest (some : 0 < short.length) (fits : short.length ≤ long.length) :
    BestPart short long (bestWindow short long).kept := by
  constructor
  · obtain ⟨part, aligns, reached⟩ := bestWindowReached some fits
    exact ⟨part, aligns, (resemblanceKept some).mpr reached⟩
  · rintro y ⟨part, aligns, resembles⟩
    rw [(resemblanceKept some).mp resembles]
    exact partAligned some fits aligns

/-! ## A window that keeps all, and one that keeps nothing -/

theorem bestWindowSound (some : 0 < short.length) (fits : short.length ≤ long.length) :
    0 ≤ (bestWindow short long).kept ∧ (bestWindow short long).kept ≤ 1 := by
  obtain ⟨part, _, reached⟩ := bestWindowReached some fits
  rw [reached]
  exact Share.soundKept (Share.ofTextsSound some part)

theorem bestWindowWhole (some : 0 < short.length) (fits : short.length ≤ long.length) :
    (bestWindow short long).kept = 1 ↔ short <:+: long := by
  constructor
  · intro whole
    obtain ⟨part, aligns, reached⟩ := bestWindowReached some fits
    have same : short = part := (Share.ofTextsWhole some).mp (reached.symm.trans whole)
    cases aligns with
    | beginning _ less _ => exact absurd (congrArg List.length same) (by omega)
    | within _ inside => rwa [same]
    | ending _ less _ => exact absurd (congrArg List.length same) (by omega)
  · intro inside
    have covered := partCovered some inside rfl
    rw [Covered, (Share.ofTextsWhole some).mpr rfl] at covered
    exact le_antisymm (bestWindowSound some fits).2 covered

theorem bestWindowNone (some : 0 < short.length) (fits : short.length ≤ long.length) :
    (bestWindow short long).kept = 0 ↔ ∀ c ∈ short, c ∉ long := by
  constructor
  · intro none c first second
    -- A part of the right length has the common character, and is covered.
    have stands : [c] <:+: long := by
      obtain ⟨before, after, rfl⟩ := List.append_of_mem second
      exact ⟨before, after, by simp⟩
    obtain ⟨wide, inside, length, holds⟩ := widened stands some fits
    have covered := partCovered some inside length
    have least := (Share.soundKept (Share.ofTextsSound some wide)).1
    rw [Covered, none] at covered
    exact (Share.ofTextsNone some).mp (le_antisymm covered least) c first (List.singleton_sublist.mp holds)
  · intro apart
    obtain ⟨part, aligns, reached⟩ := bestWindowReached some fits
    rw [reached, Share.ofTextsNone some]
    intro c first second
    exact apart c first ((partInside aligns).subset second)

end

/-! ## The alignment of two texts -/

section
variable {as bs : List Char}

theorem alignmentShorter (less : as.length < bs.length) : bestAlignment as bs = bestWindow as bs := if_pos less

theorem alignmentLonger (more : bs.length < as.length) : bestAlignment as bs = bestWindow bs as := by
  rw [bestAlignment, if_neg (by omega), if_pos more]

theorem alignmentEither (as bs : List Char) :
    (as.length ≤ bs.length ∧ bestAlignment as bs = bestWindow as bs) ∨
      (bs.length ≤ as.length ∧ bestAlignment as bs = bestWindow bs as) := by
  unfold bestAlignment
  split
  · rename_i less
    exact .inl ⟨less.le, rfl⟩
  · split
    · rename_i more
      exact .inr ⟨more.le, rfl⟩
    · rcases Share.maxEither (bestWindow as bs) (bestWindow bs as) with left | right
      · exact .inl ⟨by omega, left⟩
      · exact .inr ⟨by omega, right⟩

theorem alignmentEven (some : 0 < as.length) (even : as.length = bs.length) :
    (bestAlignment as bs).kept = max (bestWindow as bs).kept (bestWindow bs as).kept := by
  rw [bestAlignment, if_neg (by omega), if_neg (by omega)]
  exact Share.maxKeptEq (Share.bestKept (windowsTotal some bs)).1
    (Share.bestKept (windowsTotal (even ▸ some) as)).1

theorem alignmentSwapped (some : 0 < as.length) (other : 0 < bs.length) :
    (bestAlignment as bs).kept = (bestAlignment bs as).kept := by
  rcases Nat.lt_trichotomy as.length bs.length with less | even | more
  · rw [alignmentShorter less, alignmentLonger less]
  · rw [alignmentEven some even, alignmentEven other even.symm, max_comm]
  · rw [alignmentLonger more, alignmentShorter more]

theorem insideShorter (fits : as.length ≤ bs.length) : as <:+: bs ↔ ShorterInside as bs := by
  constructor
  · intro inside
    refine ⟨fun _ => inside, fun longer => ?_⟩
    exact inside.eq_of_length (fits.antisymm longer) ▸ List.infix_rfl
  · intro stands
    exact stands.1 fits

theorem alignmentWhole (some : 0 < as.length) (other : 0 < bs.length) :
    (bestAlignment as bs).kept = 1 ↔ ShorterInside as bs := by
  rcases alignmentEither as bs with ⟨fits, best⟩ | ⟨fits, best⟩
  · rw [best, bestWindowWhole some fits, insideShorter fits]
  · rw [best, bestWindowWhole other fits, insideShorter fits]
    exact and_comm

theorem alignmentNone (some : 0 < as.length) (other : 0 < bs.length) :
    (bestAlignment as bs).kept = 0 ↔ ∀ c ∈ as, c ∉ bs := by
  rcases alignmentEither as bs with ⟨fits, best⟩ | ⟨fits, best⟩
  · rw [best, bestWindowNone some fits]
  · rw [best, bestWindowNone other fits]
    constructor
    · exact fun apart c first second => apart c second first
    · exact fun apart c second first => apart c first second

end

structure GreatestAlignment (as bs : List Char) (x : Rat) : Prop where
  shorter : as.length < bs.length → BestPart as bs x
  longer : bs.length < as.length → BestPart bs as x
  even : as.length = bs.length → ∃ y z, BestPart as bs y ∧ BestPart bs as z ∧ x = max y z

theorem bestAlignmentGreatest {as bs : List Char} (some : 0 < as.length) (other : 0 < bs.length) :
    GreatestAlignment as bs (bestAlignment as bs).kept where
  shorter less := by
    rw [alignmentShorter less]
    exact bestWindowGreatest some less.le
  longer more := by
    rw [alignmentLonger more]
    exact bestWindowGreatest other more.le
  even same := ⟨_, _, bestWindowGreatest some same.le, bestWindowGreatest other same.ge, alignmentEven some same⟩

theorem alignmentGreatest {pattern target : String} (some : pattern ≠ "") (other : target ≠ "") :
    GreatestAlignment (Text.lower pattern).toList (Text.lower target).toList
      ((Measure.partialRatio.scorer : Scorer Rat) pattern target) := by
  rw [Text.lowerToList, Text.lowerToList, scorerKept some other]
  exact bestAlignmentGreatest (lowerPositive some) (lowerPositive other)

theorem alignmentGreatestBoth :
    BestPart "brwn".toList "the brown fox".toList (3 / 4) ∧
      ∃ x y, BestPart "aaaa".toList "aaba".toList x ∧ BestPart "aaba".toList "aaaa".toList y ∧ 6 / 7 = max x y := by
  have longer := @alignmentGreatest "BRWN" "the Brown fox" (by decide) (by decide)
  have even := @alignmentGreatest "AAAA" "AAba" (by decide) (by decide)
  have brown : (Measure.partialRatio.scorer : Scorer Rat) "BRWN" "the Brown fox" = 3 / 4 := by decide +kernel
  have same : (Measure.partialRatio.scorer : Scorer Rat) "AAAA" "AAba" = 6 / 7 := by decide +kernel
  have first : (Text.lower "BRWN").toList = "brwn".toList := by decide +kernel
  have second : (Text.lower "the Brown fox").toList = "the brown fox".toList := by decide +kernel
  have third : (Text.lower "AAAA").toList = "aaaa".toList := by decide +kernel
  have fourth : (Text.lower "AAba").toList = "aaba".toList := by decide +kernel
  rw [first, second, brown] at longer
  rw [third, fourth, same] at even
  exact ⟨longer.shorter (by decide), even.even (by decide)⟩

end TypoSearch.Similarity
