import TypoSearch.Proofs.Text.Containment

/-! A text inside a longer one. Its characters are lowered as they are alone, but for the capital sigma, whose
form depends on the letters around it. So the lowered text stands in the longer one wherever it stands if
each of its sigmas has settled its form within the text itself, and only then. -/
namespace TypoSearch.Text

/-! ## Lowering between other texts -/

def lowerBetween (before after : List Char) : List Char → List Char
  | [] => []
  | c :: cs =>
    (if c = capitalSigma then [lowerSigma before (cs ++ after)] else lowerChar c) ++
      lowerBetween (c :: before) after cs

theorem lowerAfterAppend (before cs ds : List Char) :
    lowerAfter before (cs ++ ds) = lowerBetween before ds cs ++ lowerAfter (cs.reverse ++ before) ds := by
  induction cs generalizing before with
  | nil => rfl
  | cons c cs ih =>
    rw [List.cons_append, lowerAfter, ih, lowerBetween]
    simp

theorem lowerAlone (cs : List Char) : lowerChars cs = lowerBetween [] [] cs := by
  have whole := lowerAfterAppend [] cs []
  rw [List.append_nil] at whole
  rw [lowerChars, whole, lowerAfter, List.append_nil]

theorem lowerInside (before cs after : List Char) :
    lowerChars (before ++ cs ++ after) = lowerBetween [] (cs ++ after) before ++
      lowerBetween before.reverse after cs ++ lowerAfter (cs.reverse ++ before.reverse) after := by
  rw [lowerChars, List.append_assoc, lowerAfterAppend, lowerAfterAppend, List.append_nil, List.append_assoc]

theorem betweenLength (before after other following cs : List Char) :
    (lowerBetween before after cs).length = (lowerBetween other following cs).length := by
  induction cs generalizing before other with
  | nil => rfl
  | cons c cs ih =>
    rw [lowerBetween, lowerBetween, List.length_append, List.length_append, ih _ (c :: other)]
    split <;> rfl

def SameForms (before after other following cs : List Char) : Prop :=
  ∀ first rest, cs = first ++ capitalSigma :: rest →
    lowerSigma (first.reverse ++ before) (rest ++ after) = lowerSigma (first.reverse ++ other) (rest ++ following)

theorem sameFormsCons {before after other following cs : List Char} {c : Char} :
    SameForms before after other following (c :: cs) ↔
      (c = capitalSigma → lowerSigma before (cs ++ after) = lowerSigma other (cs ++ following)) ∧
        SameForms (c :: before) after (c :: other) following cs := by
  constructor
  · intro same
    refine ⟨?_, fun first rest split => ?_⟩
    · rintro rfl
      exact same [] cs rfl
    · simpa using same (c :: first) rest (by rw [split, List.cons_append])
  · rintro ⟨here, same⟩ first rest split
    cases first with
    | nil =>
      cases split
      exact here rfl
    | cons d first =>
      simp only [List.cons_append, List.cons.injEq] at split
      obtain ⟨rfl, split⟩ := split
      simpa using same first rest split

theorem betweenSame {before after other following cs : List Char} :
    lowerBetween before after cs = lowerBetween other following cs ↔
      SameForms before after other following cs := by
  induction cs generalizing before other with
  | nil => simp [lowerBetween, SameForms]
  | cons c cs ih =>
    rw [sameFormsCons, ← ih, lowerBetween, lowerBetween]
    by_cases sigma : c = capitalSigma
    · simp [sigma]
    · simp [sigma]

/-! ## What settles the form of a sigma -/

def seesThrough (cs : List Char) : Bool := cs.all fun c => inRanges ignorableRanges c.toNat

/- Whatever stands beyond the characters on both sides, the form is the same: a letter follows, or no letter
precedes, or neither side is looked through. -/
def settles (before after : List Char) : Bool :=
  meetsLetter after || (!seesThrough before && (!meetsLetter before || !seesThrough after))

theorem meetsAppend (cs ds : List Char) :
    meetsLetter (cs ++ ds) = if seesThrough cs then meetsLetter ds else meetsLetter cs := by
  induction cs with
  | nil => rfl
  | cons c cs ih =>
    by_cases ignored : inRanges ignorableRanges c.toNat = true
    · simpa [meetsLetter, seesThrough, ignored] using ih
    · simp [meetsLetter, seesThrough, ignored]

theorem meetsNothing {cs : List Char} (through : seesThrough cs = true) : meetsLetter cs = false := by
  have alone := meetsAppend cs []
  rw [List.append_nil, if_pos through] at alone
  exact alone

theorem settledForm {before after : List Char} (settled : settles before after = true) (outer beyond : List Char) :
    lowerSigma (before ++ outer) (after ++ beyond) = lowerSigma before after := by
  unfold lowerSigma
  rw [meetsAppend, meetsAppend]
  cases left : seesThrough before <;> cases right : seesThrough after <;>
    simp_all [settles, meetsNothing]

theorem unsettledForm {before after : List Char} (unsettled : settles before after = false) :
    (∀ c, meetsLetter [c] = true → lowerSigma (before ++ [c]) after ≠ lowerSigma before after) ∨
      ∀ c, meetsLetter [c] = true → lowerSigma before (after ++ [c]) ≠ lowerSigma before after := by
  unfold lowerSigma
  simp only [meetsAppend]
  cases left : seesThrough before <;> cases right : seesThrough after <;>
    simp_all [settles, meetsNothing]

def Settled (cs : List Char) : Prop :=
  ∀ first rest, cs = first ++ capitalSigma :: rest → settles first.reverse rest = true

def LoweredAlike (before after cs : List Char) : Prop := SameForms before.reverse after [] [] cs

theorem loweredAlike {before after cs : List Char} :
    lowerBetween before.reverse after cs = lowerChars cs ↔ LoweredAlike before after cs := by
  rw [lowerAlone]
  exact betweenSame

theorem settledAlike {cs : List Char} (settled : Settled cs) (before after : List Char) :
    LoweredAlike before after cs := by
  intro first rest split
  rw [settledForm (settled first rest split), List.append_nil, List.append_nil]

/-! ## Where the lowered text stands -/

theorem alikeStands {before after cs : List Char} (alike : LoweredAlike before after cs) :
    lowerChars cs <:+: lowerChars (before ++ cs ++ after) := by
  rw [lowerInside, loweredAlike.mpr alike]
  exact ⟨_, _, rfl⟩

theorem infixBehind {xs ys : List Char} {c : Char} (stands : xs <:+: c :: ys) (lengths : xs.length = ys.length)
    (head : xs.head? ≠ some c) : xs = ys := by
  rcases List.infix_cons_iff.mp stands with begins | inside
  · cases xs with
    | nil => exact (List.length_eq_zero_iff.mp lengths.symm).symm
    | cons x xs =>
      have same := (List.cons_prefix_cons.mp begins).1
      exact absurd (congrArg some same) head
  · exact inside.eq_of_length lengths

theorem infixBefore {xs ys : List Char} {c : Char} (stands : xs <:+: ys ++ [c]) (lengths : xs.length = ys.length)
    (last : xs.getLast? ≠ some c) : xs = ys := by
  have reversed : xs.reverse <:+: c :: ys.reverse := by simpa using List.reverse_infix.mpr stands
  have same := infixBehind reversed (by simpa using lengths) (by simpa using last)
  exact List.reverse_inj.mp same

structure SmallLetter (c : Char) : Prop where
  letter : meetsLetter [c] = true
  other : c ≠ capitalSigma
  lowered : lowerChar c = [c]

theorem otherLetter (d : Option Char) : ∃ c, SmallLetter c ∧ d ≠ some c := by
  by_cases same : d = some 'a'
  · refine ⟨'b', ⟨by decide +kernel, by decide, by decide +kernel⟩, ?_⟩
    rw [same]
    decide
  · exact ⟨'a', ⟨by decide +kernel, by decide, by decide +kernel⟩, same⟩

theorem aloneLength (before after cs : List Char) :
    (lowerChars cs).length = (lowerBetween before after cs).length := by
  rw [lowerAlone]
  exact betweenLength _ _ _ _ cs

section
variable {cs : List Char} {c : Char}

/- With a letter before or behind it the lowered text could stand one place further on. There the letter would
meet its first or its last character, which it differs from. -/
theorem standsBehind (small : SmallLetter c) (differs : (lowerChars cs).head? ≠ some c)
    (stands : lowerChars cs <:+: lowerChars ([c] ++ cs ++ [])) : LoweredAlike [c] [] cs := by
  have letter : lowerBetween [] (cs ++ []) [c] = [c] := by
    rw [lowerBetween, if_neg small.other, small.lowered]
    rfl
  rw [lowerInside, letter, lowerAfter, List.append_nil, List.singleton_append] at stands
  exact loweredAlike.mp (infixBehind stands (aloneLength _ _ cs) differs).symm

theorem standsBefore (small : SmallLetter c) (differs : (lowerChars cs).getLast? ≠ some c)
    (stands : lowerChars cs <:+: lowerChars ([] ++ cs ++ [c])) : LoweredAlike [] [c] cs := by
  have letter (before : List Char) : lowerAfter before [c] = [c] := by
    rw [lowerAfter, if_neg small.other, small.lowered]
    rfl
  rw [lowerInside, letter, lowerBetween, List.nil_append] at stands
  exact loweredAlike.mp (infixBefore stands (aloneLength _ _ cs) differs).symm

end

theorem standsSettled {cs : List Char}
    (stands : ∀ before after, lowerChars cs <:+: lowerChars (before ++ cs ++ after)) : Settled cs := by
  intro first rest split
  refine Bool.of_not_eq_false fun unsettled => ?_
  rcases unsettledForm unsettled with changed | changed
  · obtain ⟨c, small, differs⟩ := otherLetter (lowerChars cs).head?
    have form := standsBehind small differs (stands [c] []) first rest split
    simp only [List.reverse_singleton, List.append_nil] at form
    exact changed c small.letter form
  · obtain ⟨c, small, differs⟩ := otherLetter (lowerChars cs).getLast?
    have form := standsBefore small differs (stands [] [c]) first rest split
    simp only [List.reverse_nil, List.append_nil] at form
    exact changed c small.letter form

end TypoSearch.Text
