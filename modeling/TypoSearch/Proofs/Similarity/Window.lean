import Mathlib.Algebra.Order.Field.Basic
import Mathlib.Data.Rat.Cast.Order
import Mathlib.Tactic.FieldSimp
import Mathlib.Tactic.Linarith
import TypoSearch.Proofs.Similarity.Subsequence
import TypoSearch.Similarity.Window

/-! The best window is as good as any part of its length. Parts whose outer character is foreign to the
shorter text are passed over, but each is matched no better than a neighbour: the part one step to the
left, or the one without that character. -/
namespace TypoSearch.Similarity

namespace Share

def kept (s : Share) : Rat := 1 - (s.lost : Rat) / s.total

theorem belowKept {a b : Share} (first : 0 < a.total) (second : 0 < b.total) :
    a.below b = true ↔ a.kept < b.kept := by
  have firstCast : (0 : Rat) < a.total := Nat.cast_pos.mpr first
  have secondCast : (0 : Rat) < b.total := Nat.cast_pos.mpr second
  rw [below, decide_eq_true_eq, kept, kept, sub_lt_sub_iff_left, div_lt_div_iff₀ secondCast firstCast]
  norm_cast

theorem maxKept {a b : Share} (first : 0 < a.total) (second : 0 < b.total) :
    0 < (a.max b).total ∧ a.kept ≤ (a.max b).kept ∧ b.kept ≤ (a.max b).kept := by
  unfold max
  split
  · rename_i less
    exact ⟨second, le_of_lt ((belowKept first second).mp less), le_refl _⟩
  · rename_i more
    exact ⟨first, le_refl _, not_lt.mp (mt (belowKept first second).mpr more)⟩

theorem foldKept {shares : List Share} {a : Share} (first : 0 < a.total)
    (rest : ∀ s ∈ shares, 0 < s.total) :
    0 < (shares.foldl max a).total ∧ a.kept ≤ (shares.foldl max a).kept ∧
      ∀ s ∈ shares, s.kept ≤ (shares.foldl max a).kept := by
  induction shares generalizing a with
  | nil => exact ⟨first, le_refl _, by simp⟩
  | cons b shares ih =>
    obtain ⟨positive, left, right⟩ := maxKept first (rest b List.mem_cons_self)
    obtain ⟨whole, before, each⟩ := ih positive fun s member => rest s (List.mem_cons_of_mem b member)
    refine ⟨whole, le_trans left before, ?_⟩
    intro s member
    rcases List.mem_cons.mp member with rfl | inside
    · exact le_trans right before
    · exact each s inside

theorem nothingKept : nothing.kept = 0 := by
  simp [nothing, kept]

theorem bestKept {shares : List Share} (positive : ∀ s ∈ shares, 0 < s.total) :
    0 < (best shares).total ∧ 0 ≤ (best shares).kept ∧ ∀ s ∈ shares, s.kept ≤ (best shares).kept := by
  have none : 0 < nothing.total := Nat.one_pos
  obtain ⟨total, least, each⟩ := foldKept none positive
  rw [nothingKept] at least
  exact ⟨total, least, each⟩

theorem ofTextsKept {as : List Char} (some : 0 < as.length) (bs : List Char) :
    (ofTexts as bs).kept = 2 * subsequence as bs / (as.length + bs.length) := by
  have left := subsequenceLeft as bs
  have right := subsequenceRight as bs
  have fits : 2 * subsequence as bs ≤ as.length + bs.length := by omega
  have positive : (0 : Rat) < as.length + bs.length := by
    have cast : (0 : Rat) < as.length := Nat.cast_pos.mpr some
    have other : (0 : Rat) ≤ bs.length := Nat.cast_nonneg _
    linarith
  unfold kept ofTexts indel
  push_cast [Nat.cast_sub fits]
  field_simp
  linarith

theorem ofTextsMono {as bs cs : List Char} (some : 0 < as.length)
    (common : subsequence as bs ≤ subsequence as cs) (shorter : cs.length ≤ bs.length) :
    (ofTexts as bs).kept ≤ (ofTexts as cs).kept := by
  have cast : (0 : Rat) < as.length := Nat.cast_pos.mpr some
  have other : (0 : Rat) ≤ cs.length := Nat.cast_nonneg _
  have commonCast : (subsequence as bs : Rat) ≤ subsequence as cs := Nat.cast_le.mpr common
  have shorterCast : (cs.length : Rat) ≤ bs.length := Nat.cast_le.mpr shorter
  have least : (0 : Rat) ≤ subsequence as cs := Nat.cast_nonneg _
  rw [ofTextsKept some, ofTextsKept some]
  exact div_le_div₀ (by linarith) (by linarith) (by linarith) (by linarith)

end Share

section
variable {short long : List Char}

def Covered (short long part : List Char) : Prop :=
  (Share.ofTexts short part).kept ≤ (bestWindow short long).kept

theorem windowsTotal (some : 0 < short.length) (long : List Char) :
    ∀ s ∈ (windows short long).map (Share.ofTexts short), 0 < s.total := by
  intro s member
  obtain ⟨part, _, rfl⟩ := List.mem_map.mp member
  exact Nat.add_pos_left some part.length

theorem windowCovered (some : 0 < short.length) {part : List Char} (member : part ∈ windows short long) :
    Covered short long part :=
  (Share.bestKept (windowsTotal some long)).2.2 _ (List.mem_map_of_mem member)

theorem emptyCovered (some : 0 < short.length) (long : List Char) : Covered short long [] := by
  have least := (Share.bestKept (windowsTotal some long)).2.1
  have zero : (Share.ofTexts short []).kept = 0 := by
    rw [Share.ofTextsKept some, subsequenceNilRight]
    simp
  rw [Covered, zero]
  exact least

theorem coveredMono (some : 0 < short.length) {part other : List Char}
    (common : subsequence short part ≤ subsequence short other) (shorter : other.length ≤ part.length)
    (covered : Covered short long other) : Covered short long part :=
  le_trans (Share.ofTextsMono some common shorter) covered

theorem lastCovered (some : 0 < short.length) {part : List Char} {c : Char}
    (kept : endsWithin short (part ++ [c]) = true → Covered short long (part ++ [c]))
    (before : Covered short long part) : Covered short long (part ++ [c]) := by
  by_cases within : c ∈ short
  · exact kept (by simpa [endsWithin] using within)
  · exact coveredMono some (foreignLast part within) (by simp) before

theorem beginningCovered (some : 0 < short.length) {size : Nat} (less : size < short.length)
    (fits : short.length ≤ long.length) : Covered short long (long.take size) := by
  induction size with
  | zero => exact emptyCovered some long
  | succ size ih =>
    have inside : size < long.length := by omega
    rw [List.take_succ_eq_append_getElem inside]
    refine lastCovered some (fun within => windowCovered some ?_) (ih (by omega))
    rw [← List.take_succ_eq_append_getElem inside] at within ⊢
    simp only [windows, List.mem_append, List.mem_filter]
    refine .inl ⟨.inl ?_, within⟩
    exact List.mem_map_of_mem (List.mem_range'_1.mpr ⟨by omega, by omega⟩)

theorem endingCovered (some : 0 < short.length) (fits : short.length ≤ long.length) {size : Nat}
    (most : size ≤ short.length) : Covered short long (long.drop (long.length - size)) := by
  induction size with
  | zero => simpa using emptyCovered some long
  | succ size ih =>
    have inside : long.length - (size + 1) < long.length := by omega
    have rest := ih (by omega)
    have next : long.length - (size + 1) + 1 = long.length - size := by omega
    have first := List.drop_eq_getElem_cons inside
    rw [next] at first
    by_cases within : long[long.length - (size + 1)] ∈ short
    · apply windowCovered some
      simp only [windows, List.mem_append, List.mem_filter]
      refine .inr ⟨?_, ?_⟩
      · exact List.mem_map_of_mem (List.mem_range'_1.mpr ⟨by omega, by omega⟩)
      · rw [first]
        simpa [startsWithin] using within
    · rw [first]
      exact coveredMono some (foreignFirst _ within) (by simp) rest

theorem slidingCovered (some : 0 < short.length) {i : Nat} (less : i + short.length < long.length)
    (within : endsWithin short ((long.drop i).take short.length) = true) :
    Covered short long ((long.drop i).take short.length) := by
  apply windowCovered some
  simp only [windows, List.mem_append, List.mem_filter]
  refine .inl ⟨.inr ?_, within⟩
  exact List.mem_map_of_mem (List.mem_range.mpr (by omega))

theorem slidingLast {size i : Nat} (length : short.length = size + 1)
    (less : i + short.length < long.length) :
    ∃ c, (long.drop i).take short.length = (long.drop i).take size ++ [c] := by
  have inside : size < (long.drop i).length := by
    rw [List.length_drop]
    omega
  rw [length, List.take_succ_eq_append_getElem inside]
  exact ⟨_, rfl⟩

/-- A window that slides is covered from the left: without its last character it is the window before
without its first. -/
theorem slideCovered (some : 0 < short.length) {i : Nat} (less : i + short.length < long.length) :
    Covered short long ((long.drop i).take short.length) := by
  obtain ⟨size, length⟩ : ∃ size, short.length = size + 1 := ⟨short.length - 1, by omega⟩
  induction i with
  | zero =>
    -- Without its last character the first window is a beginning of the text.
    obtain ⟨c, split⟩ := slidingLast length less
    have here := slidingCovered some less
    rw [split] at here ⊢
    exact lastCovered some here (beginningCovered some (by omega) (by omega))
  | succ i ih =>
    have before := ih (by omega)
    obtain ⟨c, split⟩ := slidingLast length less
    by_cases within : c ∈ short
    · apply slidingCovered some less
      rw [split]
      simpa [endsWithin] using within
    · have inside : i < long.length := by omega
      have first : (long.drop i).take short.length = long[i] :: (long.drop (i + 1)).take size := by
        rw [List.drop_eq_getElem_cons inside, length, List.take_succ_cons]
      have shared : subsequence short ((long.drop (i + 1)).take size) ≤
          subsequence short ((long.drop i).take short.length) := by
        rw [first]
        exact subsequenceMono short (List.sublist_cons_self _ _)
      refine coveredMono some ?_ ?_ before
      · rw [split]
        exact le_trans (foreignLast _ within) shared
      · simp only [List.length_take, List.length_drop]
        omega

theorem partCovered (some : 0 < short.length) {part : List Char} (inside : part <:+: long)
    (length : part.length = short.length) : Covered short long part := by
  obtain ⟨before, after, whole⟩ := inside
  have size : long.length = before.length + short.length + after.length := by
    rw [← whole, List.length_append, List.length_append, length]
  have cut : (long.drop before.length).take short.length = part := by
    rw [← whole, List.append_assoc, List.drop_left, ← length, List.take_left]
  have fits : short.length ≤ long.length := by omega
  cases after with
  | nil =>
    have ending := endingCovered some fits (le_refl short.length)
    have start : long.length - short.length = before.length := by
      rw [size, List.length_nil]
      omega
    rw [start] at ending
    rw [← cut, List.take_of_length_le]
    · exact ending
    · rw [List.length_drop, size, List.length_nil]
      omega
  | cons c after =>
    rw [← cut]
    refine slideCovered some ?_
    rw [size, List.length_cons]
    omega

theorem bestWindowKept (some : 0 < short.length) {part us : List Char} (inside : part <:+: long)
    (length : part.length = short.length) (first : us.Sublist short) (second : us.Sublist part) {k : Nat}
    (near : short.length ≤ us.length + k) : 1 - (k : Rat) / short.length ≤ (bestWindow short long).kept := by
  have covered := partCovered some inside length
  have common := commonAtMost first second
  have positive : (0 : Rat) < short.length := Nat.cast_pos.mpr some
  have nearCast : (short.length : Rat) ≤ subsequence short part + k := by
    have le : short.length ≤ subsequence short part + k := by omega
    exact_mod_cast le
  refine le_trans ?_ covered
  rw [Share.ofTextsKept some, length, one_sub_div (ne_of_gt positive),
    div_le_div_iff₀ positive (by linarith)]
  nlinarith

end
end TypoSearch.Similarity
