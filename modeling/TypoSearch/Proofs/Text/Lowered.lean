import TypoSearch.Proofs.Text.Containment

/-! Lowering a lowered text changes nothing: no shift moves a letter to where another shift or an expansion
begins, and the two small sigmas stay as they are. One letter alone becomes longer, by one character. -/
namespace TypoSearch.Text

/-! ## Shifts do not chain -/

namespace Shift

def moved (s : Shift) (n : Nat) : Nat := (n + s.amount).toNat

/- A shift of every second code point is also clear of a range that it interleaves with. -/
def clearOf (low high : Nat) (paired : Bool) (t : Shift) : Bool :=
  Nat.blt high t.first || Nat.blt t.last low || (paired && t.stride == 2 && (low - t.first) % 2 == 1)

def avoids (s t : Shift) : Bool :=
  t.clearOf (s.moved s.first) (s.moved s.last) (s.stride == 2 || s.first == s.last)

theorem coversBetween {s : Shift} {n : Nat} (covers : s.covers n = true) :
    s.first ≤ n ∧ n ≤ s.last ∧ (n - s.first) % s.stride = 0 := by
  simpa [Shift.covers, and_assoc] using covers

theorem avoidsMoved {s t : Shift} {n : Nat} (avoids : s.avoids t = true) (covers : s.covers n = true) :
    t.covers (s.moved n) = false := by
  obtain ⟨least, most, step⟩ := coversBetween covers
  refine Bool.eq_false_iff.mpr fun meets => ?_
  obtain ⟨low, high, place⟩ := coversBetween meets
  simp only [Shift.avoids, clearOf, Bool.or_eq_true, Bool.and_eq_true, beq_iff_eq, Nat.blt_eq] at avoids
  unfold moved at avoids low high place
  rcases avoids with (before | behind) | ⟨⟨paired, stride⟩, odd⟩
  · omega
  · omega
  · rw [stride] at place
    rcases paired with paired | single
    · rw [paired] at step
      omega
    · omega

end Shift

theorem charNumber (n : Nat) : (Char.ofNat n).toNat = n ∨ (Char.ofNat n).toNat = 0 := by
  by_cases valid : n.isValidChar
  · rw [Char.ofNat, dif_pos valid]
    exact .inl rfl
  · rw [Char.ofNat, dif_neg valid]
    exact .inr rfl

/- The expansions are taken for shifts of a single code point. -/
def lowerSources : List Shift := lowerShifts ++ lowerExpansions.map fun e => ⟨e.source, e.source, 1, 0⟩

theorem sourcesApart : (lowerShifts.all fun s => lowerSources.all s.avoids) = true := by decide +kernel

theorem sourcesPositive : (lowerSources.all fun t => 0 < t.first) = true := by decide +kernel

theorem uncovered {c : Char} (clear : ∀ t ∈ lowerSources, t.covers c.toNat = false) : lowerChar c = [c] := by
  have expansions : lowerExpansions.find? (·.source == c.toNat) = none := by
    rw [List.find?_eq_none]
    intro e member same
    have source := clear _ (List.mem_append_right _ (List.mem_map_of_mem member))
    simp [Shift.covers, beq_iff_eq.mp same] at source
  have shifts : lowerShifts.find? (·.covers c.toNat) = none := by
    rw [List.find?_eq_none]
    intro s member
    simp [clear s (List.mem_append_left _ member)]
  simp only [lowerChar, mapped, expansions, shifts]

theorem shiftedLow {s : Shift} (member : s ∈ lowerShifts) {n : Nat} (covers : s.covers n = true) :
    lowerChar (s.apply n) = [s.apply n] := by
  refine uncovered fun t source => ?_
  have apart : s.avoids t = true := List.all_eq_true.mp (List.all_eq_true.mp sourcesApart s member) t source
  have positive : 0 < t.first := by simpa using List.all_eq_true.mp sourcesPositive t source
  rcases charNumber (n + s.amount).toNat with number | zero
  · rw [Shift.apply, number]
    exact Shift.avoidsMoved apart covers
  · rw [Shift.apply, zero]
    refine Bool.eq_false_iff.mpr fun meets => ?_
    have least := (Shift.coversBetween meets).1
    omega

theorem expansionsApart : (lowerExpansions.all fun e => e.target.all fun n =>
    lowerSources.all fun t => !t.covers (Char.ofNat n).toNat) = true := by decide +kernel

theorem expandedLow {e : Expansion} (expansion : e ∈ lowerExpansions) {d : Char}
    (member : d ∈ e.target.map Char.ofNat) : lowerChar d = [d] := by
  obtain ⟨n, target, rfl⟩ := List.mem_map.mp member
  refine uncovered fun t source => ?_
  simpa using List.all_eq_true.mp (List.all_eq_true.mp (List.all_eq_true.mp expansionsApart e expansion) n target)
    t source

theorem lowerCharCases (c : Char) :
    (∃ e ∈ lowerExpansions, e.source = c.toNat ∧ lowerChar c = e.target.map Char.ofNat) ∨
      (∃ s ∈ lowerShifts, s.covers c.toNat = true ∧ lowerChar c = [s.apply c.toNat]) ∨ lowerChar c = [c] := by
  cases expansion : lowerExpansions.find? (·.source == c.toNat) with
  | some e =>
    have source : e.source = c.toNat := by simpa using List.find?_some expansion
    exact .inl ⟨e, List.mem_of_find?_eq_some expansion, source, by simp only [lowerChar, mapped, expansion]⟩
  | none =>
    cases shift : lowerShifts.find? (·.covers c.toNat) with
    | some s =>
      exact .inr (.inl ⟨s, List.mem_of_find?_eq_some shift, by simpa using List.find?_some shift,
        by simp only [lowerChar, mapped, expansion, shift]⟩)
    | none => exact .inr (.inr (by simp only [lowerChar, mapped, expansion, shift]))

theorem lowerCharLow {c d : Char} (member : d ∈ lowerChar c) : lowerChar d = [d] := by
  rcases lowerCharCases c with ⟨e, expansion, _, form⟩ | ⟨s, shift, covers, form⟩ | form
  · exact expandedLow expansion (form ▸ member)
  · rw [form, List.mem_singleton] at member
    rw [member]
    exact shiftedLow shift covers
  · rw [form, List.mem_singleton] at member
    rw [member, form]

/-! ## Lowered texts -/

def Low (cs : List Char) : Prop := ∀ c ∈ cs, lowerChar c = [c]

theorem sigmaLow (before after : List Char) : lowerChar (lowerSigma before after) = [lowerSigma before after] := by
  unfold lowerSigma
  split <;> decide +kernel

theorem capitalMoved : lowerChar capitalSigma ≠ [capitalSigma] := by decide +kernel

theorem lowerAfterLow (before cs : List Char) : Low (lowerAfter before cs) := by
  induction cs generalizing before with
  | nil => simp [lowerAfter, Low]
  | cons c cs ih =>
    intro d member
    rw [lowerAfter, List.mem_append] at member
    rcases member with first | rest
    · split at first
      · rw [List.mem_singleton.mp first]
        exact sigmaLow before cs
      · exact lowerCharLow first
    · exact ih (c :: before) d rest

theorem lowKept {cs : List Char} (low : Low cs) (before : List Char) : lowerAfter before cs = cs := by
  induction cs generalizing before with
  | nil => rfl
  | cons c cs ih =>
    have here := low c List.mem_cons_self
    have small : c ≠ capitalSigma := by
      rintro rfl
      exact capitalMoved here
    rw [lowerAfter, if_neg small, here, ih fun d member => low d (List.mem_cons_of_mem c member)]
    rfl

theorem lowerTwice (s : String) : lower (lower s) = lower s := by
  rw [lower, lowerToList, lowerChars, lowerChars, lowKept (lowerAfterLow [] s.toList)]
  rfl

/-! ## Length -/

def dottedCapital : Char := 'İ'

theorem expansionDotted : ∀ e ∈ lowerExpansions, e.source = dottedCapital.toNat := by decide +kernel

theorem lowerCharLength (c : Char) : (lowerChar c).length = if c = dottedCapital then 2 else 1 := by
  split
  · rename_i dotted
    rw [dotted]
    decide +kernel
  · rename_i other
    rcases lowerCharCases c with ⟨e, expansion, source, _⟩ | ⟨s, _, _, form⟩ | form
    · exact absurd (Char.toNat_inj.mp (source.symm.trans (expansionDotted e expansion))) other
    · rw [form, List.length_singleton]
    · rw [form, List.length_singleton]

theorem lowerAfterCount (before cs : List Char) :
    (lowerAfter before cs).length = cs.length + cs.count dottedCapital := by
  induction cs generalizing before with
  | nil => rfl
  | cons c cs ih =>
    have first : (if c = capitalSigma then [lowerSigma before cs] else lowerChar c).length =
        if c = dottedCapital then 2 else 1 := by
      split
      · rename_i sigma
        subst sigma
        rfl
      · exact lowerCharLength c
    rw [lowerAfter, List.length_append, first, ih, List.length_cons, List.count_cons]
    split <;> simp_all <;> omega

theorem lowerCount (s : String) : (lower s).length = s.length + s.toList.count dottedCapital := by
  rw [← String.length_toList, lowerToList, lowerChars, lowerAfterCount, String.length_toList]

end TypoSearch.Text
