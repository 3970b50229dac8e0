import TypoSearch.Text.Containment

/-! Containment is standing as one piece, and no character of a text is lost when its case is changed. -/
namespace TypoSearch.Text

theorem occursInfix (pattern cs : List Char) : occursIn pattern cs = true ↔ pattern <:+: cs := by
  induction cs with
  | nil => simp [occursIn]
  | cons c cs ih =>
    rw [occursIn, Bool.or_eq_true, ih, List.isPrefixOf_iff_prefix, List.infix_cons_iff]

theorem mappedSome {expansions : List Expansion} (some : ∀ e ∈ expansions, e.target ≠ [])
    (shifts : List Shift) (c : Char) : 0 < (mapped expansions shifts c).length := by
  unfold mapped
  dsimp only
  split
  · rename_i e found
    rw [List.length_map]
    exact List.length_pos_iff.mpr (some e (List.mem_of_find?_eq_some found))
  · split <;> exact Nat.one_pos

theorem lowerCharSome (c : Char) : 0 < (lowerChar c).length := mappedSome (by decide) lowerShifts c

theorem lowerAfterLength (before cs : List Char) : cs.length ≤ (lowerAfter before cs).length := by
  induction cs generalizing before with
  | nil => exact Nat.zero_le _
  | cons c cs ih =>
    have rest := ih (c :: before)
    have first : 0 < (if c = capitalSigma then [lowerSigma before cs] else lowerChar c).length := by
      split
      · exact Nat.one_pos
      · exact lowerCharSome c
    rw [lowerAfter, List.length_append, List.length_cons]
    omega

theorem lowerLength (cs : List Char) : cs.length ≤ (lowerChars cs).length := lowerAfterLength [] cs

end TypoSearch.Text
