import Mathlib.Data.List.Perm.Basic
import TypoSearch.Similarity.TokenSet
import TypoSearch.Proofs.Similarity.Share
import TypoSearch.Proofs.Text.Words

/-! Similarity of word sets. The words in common and the remaining words of both sides determine it, and the
sides can be exchanged. All is kept exactly if one set of words lies within the other: remaining words on both
sides make two joined texts, and joined texts tell the words apart. -/
namespace TypoSearch

namespace Similarity

/-! ## Joined words -/

theorem joinCons (w : List Char) {ws : List (List Char)} (more : ws ≠ []) :
    joinTokens (w :: ws) = w ++ ' ' :: joinTokens ws := by
  rw [joinTokens, List.intercalate_cons_of_ne_nil more, List.append_assoc]
  rfl

theorem joinLength (ws : List (List Char)) :
    (joinTokens ws).length = (ws.map List.length).sum + (ws.length - 1) := by
  induction ws with
  | nil => rfl
  | cons w ws ih =>
    by_cases more : ws = []
    · simp [more, joinTokens]
    · have some : 0 < ws.length := List.length_pos_iff.mpr more
      rw [joinCons w more, List.length_append, List.length_cons, ih, List.map_cons, List.sum_cons,
        List.length_cons]
      omega

theorem joinLengthPerm {ws vs : List (List Char)} (perm : ws.Perm vs) :
    (joinTokens ws).length = (joinTokens vs).length := by
  rw [joinLength, joinLength, (perm.map List.length).sum_eq, perm.length_eq]

def Apart (ws : List (List Char)) : Prop := ∀ w ∈ ws, w ≠ [] ∧ ' ' ∉ w

theorem joinNone {ws : List (List Char)} (apart : Apart ws) (none : joinTokens ws = []) : ws = [] := by
  cases ws with
  | nil => rfl
  | cons w ws =>
    have some := (apart w List.mem_cons_self).1
    by_cases more : ws = []
    · rw [more, joinTokens, List.intercalate_singleton] at none
      exact absurd none some
    · rw [joinCons w more, List.append_eq_nil_iff] at none
      exact absurd none.1 some

theorem joinInjective {ws vs : List (List Char)} (first : Apart ws) (second : Apart vs)
    (same : joinTokens ws = joinTokens vs) : ws = vs := by
  by_cases none : ws = []
  · rw [none] at same ⊢
    exact (joinNone second same.symm).symm
  · have other : vs ≠ [] := by
      rintro rfl
      exact none (joinNone first same)
    rw [← List.splitOn_intercalate ' ' (fun w member => (first w member).2) none,
      ← List.splitOn_intercalate ' ' (fun w member => (second w member).2) other]
    exact congrArg (List.splitOn ' ') same

/-! ## The words of a text -/

theorem tokensApart (cs : List Char) : Apart (tokens cs) := by
  intro w member
  obtain ⟨some, letters⟩ := Text.wordLetters (List.mem_eraseDups.mp member)
  refine ⟨some, fun blank => ?_⟩
  have parts : separator cs ' ' = true := by
    unfold separator
    split <;> decide
  rw [letters ' ' blank] at parts
  cases parts

theorem eraseDupsNodup (ws : List (List Char)) : ws.eraseDups.Nodup := by
  match ws with
  | [] => simp
  | w :: ws =>
    rw [List.eraseDups_cons, List.nodup_cons]
    refine ⟨fun member => ?_, eraseDupsNodup _⟩
    have kept := (List.mem_filter.mp (List.mem_eraseDups.mp member)).2
    simp at kept
termination_by ws.length
decreasing_by exact Nat.lt_succ_of_le (List.length_filter_le _ _)

section
variable (as bs : List Char)

def common : List (List Char) := (tokens as).filter (tokens bs).contains

def remaining : List (List Char) := (tokens as).filter fun w => !(tokens bs).contains w

def remainingText : List Char := joinTokens (sortedTokens (remaining as bs))

def found : Nat := (joinTokens (common as bs)).length

def gap : Nat := if found as bs = 0 then 0 else 1

def sideLength : Nat := found as bs + gap as bs + (remainingText as bs).length

def restShare : Share :=
  shareOf (indel (remainingText as bs) (remainingText bs as)) (sideLength as bs + sideLength bs as)

def sideShare : Share :=
  shareOf (gap as bs + (remainingText as bs).length) (found as bs + sideLength as bs)

structure Nested : Prop where
  first : tokens as ≠ []
  second : tokens bs ≠ []
  within : tokens as ⊆ tokens bs ∨ tokens bs ⊆ tokens as

theorem remainingNone : remaining as bs = [] ↔ tokens as ⊆ tokens bs := by
  simp [remaining, List.filter_eq_nil_iff, List.subset_def]

theorem commonPerm : (common as bs).Perm (common bs as) := by
  have nodup (cs ds : List Char) : (common cs ds).Nodup := (eraseDupsNodup _).filter _
  rw [List.perm_ext_iff_of_nodup (nodup as bs) (nodup bs as)]
  intro w
  simp [common, and_comm]

theorem foundSwapped : found as bs = found bs as := joinLengthPerm (commonPerm as bs)

theorem gapSwapped : gap as bs = gap bs as := by
  rw [gap, gap, foundSwapped]

theorem restShareSwapped : restShare as bs = restShare bs as := by
  rw [restShare, restShare, indelSwapped, Nat.add_comm]

variable {as bs}

theorem nestedSwapped : Nested as bs ↔ Nested bs as :=
  ⟨fun nested => ⟨nested.second, nested.first, nested.within.symm⟩,
    fun nested => ⟨nested.second, nested.first, nested.within.symm⟩⟩

theorem commonNested (nested : Nested as bs) : common as bs ≠ [] := by
  obtain ⟨first, second, within⟩ := nested
  rcases within with left | right
  · obtain ⟨w, member⟩ := List.exists_mem_of_ne_nil _ first
    exact List.ne_nil_of_mem (List.mem_filter.mpr ⟨member, List.contains_iff_mem.mpr (left member)⟩)
  · obtain ⟨w, member⟩ := List.exists_mem_of_ne_nil _ second
    exact List.ne_nil_of_mem (List.mem_filter.mpr ⟨right member, List.contains_iff_mem.mpr member⟩)

theorem tokenSetParts : tokenSetShare as bs =
    if (tokens as).isEmpty || (tokens bs).isEmpty then .nothing
    else if !(common as bs).isEmpty && ((remaining as bs).isEmpty || (remaining bs as).isEmpty) then .everything
    else if found as bs = 0 then restShare as bs
    else ((restShare as bs).max (sideShare as bs)).max (sideShare bs as) := by
  simp only [restShare, sideShare, sideLength, foundSwapped bs as, gapSwapped bs as]
  rfl

theorem tokenSetVoid (void : tokens as = [] ∨ tokens bs = []) : tokenSetShare as bs = .nothing := by
  have none : ((tokens as).isEmpty || (tokens bs).isEmpty) = true := by simpa using void
  rw [tokenSetParts, if_pos none]

theorem tokenSetNested (nested : Nested as bs) : tokenSetShare as bs = .everything := by
  have words : ((tokens as).isEmpty || (tokens bs).isEmpty) ≠ true := by
    simp [nested.first, nested.second]
  have within : (!(common as bs).isEmpty && ((remaining as bs).isEmpty || (remaining bs as).isEmpty)) = true := by
    simpa [commonNested nested, remainingNone] using nested.within
  rw [tokenSetParts, if_neg words, if_pos within]

theorem tokenSetMixed (first : tokens as ≠ []) (second : tokens bs ≠ []) (mixed : ¬Nested as bs) :
    tokenSetShare as bs = if found as bs = 0 then restShare as bs
      else ((restShare as bs).max (sideShare as bs)).max (sideShare bs as) := by
  have words : ((tokens as).isEmpty || (tokens bs).isEmpty) ≠ true := by simp [first, second]
  have apart : (!(common as bs).isEmpty && ((remaining as bs).isEmpty || (remaining bs as).isEmpty)) ≠ true := by
    intro within
    refine mixed ⟨first, second, ?_⟩
    simpa [remainingNone] using (Bool.and_eq_true_iff.mp within).2
  rw [tokenSetParts, if_neg words, if_neg apart]

/-! ## What is kept -/

theorem shareOfSound {lost total : Nat} (most : lost ≤ total) : (shareOf lost total).Sound := by
  unfold shareOf
  split
  · exact Share.everythingSound
  · rename_i some
    exact ⟨Nat.pos_of_ne_zero some, most⟩

theorem shareOfWhole {lost total : Nat} (most : lost ≤ total) : (shareOf lost total).kept = 1 ↔ lost = 0 := by
  rw [Share.soundWhole (shareOfSound most)]
  unfold shareOf
  split
  · have none : lost = 0 := by omega
    simp [Share.everything, none]
  · rfl

theorem restMost (as bs : List Char) :
    indel (remainingText as bs) (remainingText bs as) ≤ sideLength as bs + sideLength bs as := by
  unfold indel sideLength
  omega

theorem sideMost (as bs : List Char) :
    gap as bs + (remainingText as bs).length ≤ found as bs + sideLength as bs := by
  unfold sideLength
  omega

theorem restShareSound (as bs : List Char) : (restShare as bs).Sound := shareOfSound (restMost as bs)

theorem sideShareSound (as bs : List Char) : (sideShare as bs).Sound := shareOfSound (sideMost as bs)

theorem betterKept (as bs : List Char) : (((restShare as bs).max (sideShare as bs)).max (sideShare bs as)).kept =
    max (max (restShare as bs).kept (sideShare as bs).kept) (sideShare bs as).kept := by
  have rest := (restShareSound as bs).some
  have side := (sideShareSound as bs).some
  rw [Share.maxKeptEq (Share.maxKept rest side).1 (sideShareSound bs as).some, Share.maxKeptEq rest side]

theorem tokenSetSwapped (as bs : List Char) : (tokenSetShare as bs).kept = (tokenSetShare bs as).kept := by
  by_cases void : tokens as = [] ∨ tokens bs = []
  · rw [tokenSetVoid void, tokenSetVoid void.symm]
  · obtain ⟨first, second⟩ := not_or.mp void
    by_cases nested : Nested as bs
    · rw [tokenSetNested nested, tokenSetNested (nestedSwapped.mp nested)]
    · rw [tokenSetMixed first second nested, tokenSetMixed second first (mt nestedSwapped.mpr nested),
        foundSwapped bs as, restShareSwapped bs as]
      split
      · rfl
      · rw [betterKept, restShareSwapped as bs, betterKept, max_right_comm]

theorem tokenSetWeighed (as bs : List Char) : tokenSetShare as bs ∈
    [.nothing, .everything, restShare as bs, sideShare as bs, sideShare bs as] := by
  by_cases void : tokens as = [] ∨ tokens bs = []
  · simp [tokenSetVoid void]
  · obtain ⟨first, second⟩ := not_or.mp void
    by_cases nested : Nested as bs
    · simp [tokenSetNested nested]
    · rw [tokenSetMixed first second nested]
      split
      · simp
      · rcases Share.maxEither ((restShare as bs).max (sideShare as bs)) (sideShare bs as) with before | last
        · rw [before]
          rcases Share.maxEither (restShare as bs) (sideShare as bs) with whole | side
          · simp [whole]
          · simp [side]
        · simp [last]

theorem remainingApart (as bs : List Char) : Apart (sortedTokens (remaining as bs)) := by
  intro w member
  exact tokensApart as w (List.mem_filter.mp (List.mem_mergeSort.mp member)).1

theorem remainingSame {as bs : List Char} (same : remainingText as bs = remainingText bs as) :
    tokens as ⊆ tokens bs := by
  have sorted := joinInjective (remainingApart as bs) (remainingApart bs as) same
  rw [← remainingNone, List.eq_nil_iff_forall_not_mem]
  intro w member
  have other : w ∈ sortedTokens (remaining bs as) := sorted ▸ List.mem_mergeSort.mpr member
  have inside := (List.mem_filter.mp (List.mem_mergeSort.mp other)).1
  have outside := (List.mem_filter.mp member).2
  simp [inside] at outside

theorem sideShareLess {as bs : List Char} (some : found as bs ≠ 0) : (sideShare as bs).kept ≠ 1 := by
  rw [sideShare, Ne, shareOfWhole (sideMost as bs), gap, if_neg some]
  omega

theorem tokenSetWhole (as bs : List Char) : (tokenSetShare as bs).kept = 1 ↔ Nested as bs := by
  refine ⟨fun whole => ?_, fun nested => by rw [tokenSetNested nested, Share.everythingKept]⟩
  by_contra mixed
  by_cases void : tokens as = [] ∨ tokens bs = []
  · rw [tokenSetVoid void, Share.nothingKept] at whole
    exact zero_ne_one whole
  · obtain ⟨first, second⟩ := not_or.mp void
    have rest : (restShare as bs).kept ≠ 1 := by
      rw [restShare, Ne, shareOfWhole (restMost as bs), indelNone]
      exact fun same => mixed ⟨first, second, .inl (remainingSame same)⟩
    rw [tokenSetMixed first second mixed] at whole
    split at whole
    · exact rest whole
    · rename_i some
      have other : found bs as ≠ 0 := by rwa [foundSwapped]
      rw [betterKept] at whole
      rcases max_choice (max (restShare as bs).kept (sideShare as bs).kept) (sideShare bs as).kept with before | last
      · rcases max_choice (restShare as bs).kept (sideShare as bs).kept with left | right
        · exact rest (left ▸ before ▸ whole)
        · exact sideShareLess some (right ▸ before ▸ whole)
      · exact sideShareLess other (last ▸ whole)

end
end Similarity
end TypoSearch
