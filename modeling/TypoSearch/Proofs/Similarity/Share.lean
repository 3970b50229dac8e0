import TypoSearch.Proofs.Similarity.Window

/-! Shares that are weighed against each other. The better of two is one of them, and what it keeps is the
greater part of what both keep. A sound share has a whole to be a part of, and loses no more than that. -/
namespace TypoSearch.Similarity

/-! ## What is in common, seen from the other text -/

theorem subsequenceSwapped (as bs : List Char) : subsequence as bs = subsequence bs as := by
  have least (cs ds : List Char) : subsequence cs ds ≤ subsequence ds cs := by
    obtain ⟨us, first, second, length⟩ := commonReached cs ds
    rw [← length]
    exact commonAtMost second first
  exact Nat.le_antisymm (least as bs) (least bs as)

theorem indelSwapped (as bs : List Char) : indel as bs = indel bs as := by
  rw [indel, indel, subsequenceSwapped, Nat.add_comm]

theorem subsequenceSame (as : List Char) : subsequence as as = as.length :=
  Nat.le_antisymm (subsequenceLeft as as) (commonAtMost (List.Sublist.refl as) (List.Sublist.refl as))

theorem indelNone {as bs : List Char} : indel as bs = 0 ↔ as = bs := by
  constructor
  · intro none
    have left := subsequenceLeft as bs
    have right := subsequenceRight as bs
    obtain ⟨us, first, second, length⟩ := commonReached as bs
    unfold indel at none
    have whole := first.eq_of_length (by omega)
    have other := second.eq_of_length (by omega)
    rw [← whole, other]
  · rintro rfl
    rw [indel, subsequenceSame]
    omega

theorem subsequenceNone {as bs : List Char} : subsequence as bs = 0 ↔ ∀ c ∈ as, c ∉ bs := by
  constructor
  · intro none c first second
    have common := commonAtMost (List.singleton_sublist.mpr first) (List.singleton_sublist.mpr second)
    rw [none] at common
    cases common
  · intro apart
    obtain ⟨us, first, second, length⟩ := commonReached as bs
    cases us with
    | nil => exact length.symm
    | cons c us => exact absurd (second.subset List.mem_cons_self) (apart c (first.subset List.mem_cons_self))

namespace Share

/-! ## The better of two shares -/

theorem maxEither (a b : Share) : a.max b = a ∨ a.max b = b := by
  unfold max
  split
  · exact .inr rfl
  · exact .inl rfl

theorem foldMember (shares : List Share) (a : Share) :
    shares.foldl max a = a ∨ shares.foldl max a ∈ shares := by
  induction shares generalizing a with
  | nil => exact .inl rfl
  | cons b shares ih =>
    rw [List.foldl_cons]
    rcases ih (a.max b) with first | rest
    · rw [first]
      rcases maxEither a b with left | right
      · exact .inl left
      · rw [right]
        exact .inr List.mem_cons_self
    · exact .inr (List.mem_cons_of_mem b rest)

theorem bestMember (shares : List Share) : best shares = nothing ∨ best shares ∈ shares :=
  foldMember shares nothing

theorem maxKeptEq {a b : Share} (first : 0 < a.total) (second : 0 < b.total) :
    (a.max b).kept = Max.max a.kept b.kept := by
  unfold max
  split
  · rename_i less
    exact (max_eq_right (le_of_lt ((belowKept first second).mp less))).symm
  · rename_i more
    exact (max_eq_left (not_lt.mp (mt (belowKept first second).mpr more))).symm

/-! ## Sound shares -/

structure Sound (s : Share) : Prop where
  some : 0 < s.total
  most : s.lost ≤ s.total

theorem nothingSound : nothing.Sound := ⟨Nat.one_pos, Nat.le_refl 1⟩

theorem everythingSound : everything.Sound := ⟨Nat.one_pos, Nat.zero_le 1⟩

theorem everythingKept : everything.kept = 1 := by
  simp [everything, kept]

theorem ofTextsSound {as : List Char} (some : 0 < as.length) (bs : List Char) : (ofTexts as bs).Sound :=
  ⟨Nat.add_pos_left some bs.length, Nat.sub_le _ _⟩

section
variable {s : Share}

theorem soundKept (sound : s.Sound) : 0 ≤ s.kept ∧ s.kept ≤ 1 := by
  have total : (0 : Rat) < s.total := Nat.cast_pos.mpr sound.some
  have most : (s.lost : Rat) ≤ s.total := Nat.cast_le.mpr sound.most
  have least : (0 : Rat) ≤ s.lost := Nat.cast_nonneg s.lost
  exact ⟨sub_nonneg.mpr ((div_le_one total).mpr most), sub_le_self 1 (div_nonneg least total.le)⟩

theorem soundWhole (sound : s.Sound) : s.kept = 1 ↔ s.lost = 0 := by
  have total : (s.total : Rat) ≠ 0 := Nat.cast_ne_zero.mpr (Nat.ne_of_gt sound.some)
  rw [kept, sub_eq_self, div_eq_zero_iff, or_iff_left total, Nat.cast_eq_zero]

end

theorem ofTextsNone {as : List Char} (some : 0 < as.length) {bs : List Char} :
    (ofTexts as bs).kept = 0 ↔ ∀ c ∈ as, c ∉ bs := by
  have total : (as.length + bs.length : Rat) ≠ 0 := by
    have positive : as.length + bs.length ≠ 0 := by omega
    exact_mod_cast positive
  rw [ofTextsKept some, div_eq_zero_iff, or_iff_left total, ← subsequenceNone]
  simp

theorem ofTextsWhole {as : List Char} (some : 0 < as.length) {bs : List Char} :
    (ofTexts as bs).kept = 1 ↔ as = bs := by
  rw [soundWhole (ofTextsSound some bs)]
  exact indelNone

end Share
end TypoSearch.Similarity
