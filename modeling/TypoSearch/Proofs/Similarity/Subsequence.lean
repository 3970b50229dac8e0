import TypoSearch.Similarity.Subsequence

/-! The table of common subsequences computes what its name says: no common subsequence is longer than
the number in the corner, and one is as long. -/
namespace TypoSearch.Similarity

theorem rowCons (as : List Char) (b : Char) (bs : List Char) :
    subsequenceRow as (b :: bs) = subsequence as (b :: bs) :: subsequenceRow as bs := by
  induction as with
  | nil => rfl
  | cons a as ih =>
    have step (cs : List Char) : subsequenceRow (a :: as) cs = extendRow a cs (subsequenceRow as cs) := rfl
    rw [subsequence, step, step, ih, extendRow]
    rfl

theorem subsequenceNilRight (as : List Char) : subsequence as [] = 0 := by
  cases as with
  | nil => rfl
  | cons a as =>
    have step : subsequence (a :: as) [] = (extendRow a [] (subsequenceRow as [])).headD 0 := rfl
    rw [step, extendRow]
    · rfl
    · rintro _ _ _ _ ⟨⟩

theorem subsequenceNilLeft (bs : List Char) : subsequence [] bs = 0 := by
  cases bs <;> rfl

theorem subsequenceCons (a b : Char) (as bs : List Char) :
    subsequence (a :: as) (b :: bs) =
      if a = b then subsequence as bs + 1 else max (subsequence as (b :: bs)) (subsequence (a :: as) bs) := by
  have step (cs : List Char) : subsequenceRow (a :: as) cs = extendRow a cs (subsequenceRow as cs) := rfl
  rw [subsequence, step, rowCons, extendRow]
  rfl

theorem commonAtMost {us as bs : List Char} (first : us.Sublist as) (second : us.Sublist bs) :
    us.length ≤ subsequence as bs := by
  induction as generalizing us bs with
  | nil =>
    rw [List.sublist_nil.mp first]
    exact Nat.zero_le _
  | cons a as outer =>
    induction bs generalizing us with
    | nil =>
      rw [List.sublist_nil.mp second]
      exact Nat.zero_le _
    | cons b bs inner =>
      rw [subsequenceCons]
      split
      · have shorter : us.tail.length ≤ subsequence as bs := outer first.tail second.tail
        rw [List.length_tail] at shorter
        omega
      · rename_i differ
        cases first with
        | cons _ rest =>
          have here := outer rest second
          omega
        | cons_cons _ rest =>
          cases second with
          | cons _ other =>
            have here := inner (rest.cons_cons a) other
            omega
          | cons_cons _ other => exact absurd rfl differ

theorem commonReached (as bs : List Char) :
    ∃ us : List Char, us.Sublist as ∧ us.Sublist bs ∧ us.length = subsequence as bs := by
  induction as generalizing bs with
  | nil => exact ⟨[], .slnil, List.nil_sublist bs, (subsequenceNilLeft bs).symm⟩
  | cons a as outer =>
    induction bs with
    | nil => exact ⟨[], List.nil_sublist _, .slnil, (subsequenceNilRight _).symm⟩
    | cons b bs inner =>
      rw [subsequenceCons]
      split
      · rename_i same
        subst same
        obtain ⟨us, first, second, length⟩ := outer bs
        exact ⟨a :: us, first.cons_cons a, second.cons_cons a, by rw [List.length_cons, length]⟩
      · rcases Nat.le_total (subsequence as (b :: bs)) (subsequence (a :: as) bs) with le | le
        · obtain ⟨us, first, second, length⟩ := inner
          exact ⟨us, first, second.cons b, by rw [Nat.max_eq_right le, length]⟩
        · obtain ⟨us, first, second, length⟩ := outer (b :: bs)
          exact ⟨us, first.cons a, second, by rw [Nat.max_eq_left le, length]⟩

theorem subsequenceLeft (as bs : List Char) : subsequence as bs ≤ as.length := by
  obtain ⟨us, first, _, length⟩ := commonReached as bs
  rw [← length]
  exact first.length_le

theorem subsequenceRight (as bs : List Char) : subsequence as bs ≤ bs.length := by
  obtain ⟨us, _, second, length⟩ := commonReached as bs
  rw [← length]
  exact second.length_le

theorem subsequenceMono {bs cs : List Char} (as : List Char) (part : bs.Sublist cs) :
    subsequence as bs ≤ subsequence as cs := by
  obtain ⟨us, first, second, length⟩ := commonReached as bs
  rw [← length]
  exact commonAtMost first (second.trans part)

theorem foreignLast {as : List Char} (bs : List Char) {c : Char} (foreign : c ∉ as) :
    subsequence as (bs ++ [c]) ≤ subsequence as bs := by
  obtain ⟨us, first, second, length⟩ := commonReached as (bs ++ [c])
  obtain ⟨vs, ws, rfl, inside, last⟩ := List.sublist_append_iff.mp second
  have none : ws = [] := by
    cases last with
    | cons _ rest => exact List.sublist_nil.mp rest
    | cons_cons _ rest => exact absurd (first.subset (by simp)) foreign
  rw [none, List.append_nil] at first length
  rw [← length]
  exact commonAtMost first inside

theorem foreignFirst {as : List Char} (bs : List Char) {c : Char} (foreign : c ∉ as) :
    subsequence as (c :: bs) ≤ subsequence as bs := by
  obtain ⟨us, first, second, length⟩ := commonReached as (c :: bs)
  rw [← length]
  cases second with
  | cons _ rest => exact commonAtMost first rest
  | cons_cons _ rest => exact absurd (first.subset List.mem_cons_self) foreign

end TypoSearch.Similarity
