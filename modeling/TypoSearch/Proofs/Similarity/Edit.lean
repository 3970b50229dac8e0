import TypoSearch.Proofs.Similarity.Subsequence

/-! Typos as edits of single characters. Whatever the order of the edits, each loses at most one character
of what the two texts have in common, in either length. -/
namespace TypoSearch.Similarity

inductive Edit : List Char → List Char → Prop
  | insert (before after : List Char) (c : Char) : Edit (before ++ after) (before ++ c :: after)
  | delete (before after : List Char) (c : Char) : Edit (before ++ c :: after) (before ++ after)
  | replace (before after : List Char) (c d : Char) : Edit (before ++ c :: after) (before ++ d :: after)

inductive Within : Nat → List Char → List Char → Prop
  | same (k : Nat) (cs : List Char) : Within k cs cs
  | step {k : Nat} {as bs cs : List Char} (edit : Edit as bs) (rest : Within k bs cs) :
      Within (k + 1) as cs

theorem withinNone {as bs : List Char} (within : Within 0 as bs) : as = bs := by
  cases within
  rfl

theorem withoutOne {us before after : List Char} {c : Char} (part : us.Sublist (before ++ c :: after)) :
    ∃ vs : List Char, vs.Sublist us ∧ vs.Sublist (before ++ after) ∧ us.length ≤ vs.length + 1 := by
  obtain ⟨first, second, rfl, inFirst, inSecond⟩ := List.sublist_append_iff.mp part
  cases inSecond with
  | cons _ rest => exact ⟨_, List.Sublist.refl _, inFirst.append rest, by omega⟩
  | @cons_cons rest _ _ inRest =>
    refine ⟨first ++ rest, ?_, inFirst.append inRest, ?_⟩
    · exact (List.Sublist.refl first).append (List.sublist_cons_self c rest)
    · simp only [List.length_append, List.length_cons]
      omega

theorem editPart {as bs us : List Char} (edit : Edit as bs) (part : us.Sublist bs) :
    ∃ vs : List Char, vs.Sublist us ∧ vs.Sublist as ∧ us.length ≤ vs.length + 1 ∧
      as.length + us.length ≤ bs.length + vs.length + 1 := by
  cases edit with
  | insert before after c =>
    obtain ⟨vs, inPart, inText, length⟩ := withoutOne part
    refine ⟨vs, inPart, inText, length, ?_⟩
    simp only [List.length_append, List.length_cons]
    omega
  | delete before after c =>
    refine ⟨us, List.Sublist.refl us, ?_, by omega, ?_⟩
    · exact part.trans ((List.Sublist.refl before).append (List.sublist_cons_self c after))
    · simp only [List.length_append, List.length_cons]
      omega
  | replace before after c d =>
    obtain ⟨vs, inPart, inText, length⟩ := withoutOne part
    refine ⟨vs, inPart, ?_, length, ?_⟩
    · exact inText.trans ((List.Sublist.refl before).append (List.sublist_cons_self c after))
    · simp only [List.length_append, List.length_cons]
      omega

theorem withinCommon {k : Nat} {as bs : List Char} (within : Within k as bs) :
    ∃ us : List Char, us.Sublist as ∧ us.Sublist bs ∧ as.length ≤ us.length + k ∧
      bs.length ≤ us.length + k := by
  induction within with
  | same k cs => exact ⟨cs, List.Sublist.refl cs, List.Sublist.refl cs, by omega, by omega⟩
  | step edit _ ih =>
    obtain ⟨us, first, second, left, right⟩ := ih
    obtain ⟨vs, inPart, inText, length, lengths⟩ := editPart edit first
    exact ⟨vs, inText, inPart.trans second, by omega, by omega⟩

end TypoSearch.Similarity
