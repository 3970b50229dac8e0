import TypoSearch.Text.Blank

/-! The words of a text. A text is laid out from words in one way only: blanks may stand around the words, and
at least one parts each from the next. Reading the words of a text finds the words that it is laid out from,
so laying out words and reading them undo each other, and a blank anywhere parts the text into two that are read
apart. -/
namespace TypoSearch.Text

inductive Spaced (parts : Char → Bool) : List (List Char) → List Char → Prop where
  | void {gap} (blank : ∀ c ∈ gap, parts c = true) : Spaced parts [] gap
  | word {gap w rest ws} (blank : ∀ c ∈ gap, parts c = true) (some : w ≠ [])
      (letters : ∀ c ∈ w, parts c = false) (parted : ∀ c ∈ rest.head?, parts c = true)
      (behind : Spaced parts ws rest) : Spaced parts (w :: ws) (gap ++ (w ++ rest))

section
variable {parts : Char → Bool}

theorem pushBlank {d : Char} (blank : parts d = true) (c : Char) (ds : List Char) (ws : List (List Char)) :
    pushWord parts c (d :: ds) ws = [c] :: ws := by
  cases ws <;> simp [pushWord, blank]

theorem pushLetter {d : Char} (letter : parts d = false) (c : Char) (ds w : List Char)
    (ws : List (List Char)) : pushWord parts c (d :: ds) (w :: ws) = (c :: w) :: ws := by
  simp [pushWord, letter]

theorem wordsSplit (cs : List Char) : wordsBy parts cs = (cs.splitOnP parts).filter (!·.isEmpty) := by
  induction cs with
  | nil => simp [wordsBy]
  | cons c cs ih =>
    rw [wordsBy, List.splitOnP_cons_eq_if_modifyHead]
    split
    · simpa using ih
    · rw [ih]
      cases cs with
      | nil => simp [pushWord]
      | cons d ds =>
        rw [List.splitOnP_cons_eq_if_modifyHead]
        cases kind : parts d with
        | true => simp [pushBlank kind]
        | false =>
          obtain ⟨w, ws, split⟩ := List.exists_cons_of_ne_nil (List.splitOnP_ne_nil parts ds)
          simp [split, pushLetter kind]

theorem wordsParted {c : Char} (blank : parts c = true) (xs ys : List Char) :
    wordsBy parts (xs ++ c :: ys) = wordsBy parts xs ++ wordsBy parts ys := by
  rw [wordsSplit, wordsSplit, wordsSplit, List.splitOnP_append_cons _ _ blank, List.filter_append]

theorem wordsBehind {gap : List Char} (blank : ∀ c ∈ gap, parts c = true) (cs : List Char) :
    wordsBy parts (gap ++ cs) = wordsBy parts cs := by
  induction gap with
  | nil => rfl
  | cons c gap ih =>
    simp only [List.forall_mem_cons] at blank
    rw [List.cons_append, wordsBy, if_pos blank.1, ih blank.2]

theorem wordsAlone {w : List Char} (some : w ≠ []) (letters : ∀ c ∈ w, parts c = false) :
    wordsBy parts w = [w] := by
  rw [wordsSplit, List.splitOnP_eq_singleton letters]
  simp [some]

theorem spacedWords {ws : List (List Char)} {cs : List Char} (spaced : Spaced parts ws cs) :
    wordsBy parts cs = ws := by
  induction spaced with
  | void blank => simpa [wordsBy] using wordsBehind blank []
  | @word gap w rest ws blank some letters parted behind ih =>
    rw [wordsBehind blank]
    -- The first word runs to the end of the text, or up to a blank that parts it from the others.
    cases rest with
    | nil =>
      have last : ws = [] := by simpa [wordsBy] using ih.symm
      rw [List.append_nil, wordsAlone some letters, last]
    | cons c rest =>
      have blankNext := parted c rfl
      rw [wordsBy, if_pos blankNext] at ih
      rw [wordsParted blankNext, wordsAlone some letters, ih]
      rfl

theorem blankSpaced {c : Char} (blank : parts c = true) {ws : List (List Char)} {cs : List Char}
    (spaced : Spaced parts ws cs) : Spaced parts ws (c :: cs) := by
  cases spaced with
  | void others => exact .void (List.forall_mem_cons.mpr ⟨blank, others⟩)
  | word others some letters parted behind =>
    exact .word (List.forall_mem_cons.mpr ⟨blank, others⟩) some letters parted behind

theorem frontSpaced {w rest : List Char} {ws : List (List Char)} (some : w ≠ [])
    (letters : ∀ c ∈ w, parts c = false) (parted : ∀ d ∈ rest.head?, parts d = true)
    (behind : Spaced parts ws rest) :
    Spaced parts (w :: ws) (w ++ rest) :=
  @Spaced.word parts [] w rest ws (by simp) some letters parted behind

theorem aloneSpaced {c : Char} (letter : parts c = false) {ws : List (List Char)} {rest : List Char}
    (parted : ∀ d ∈ rest.head?, parts d = true) (behind : Spaced parts ws rest) :
    Spaced parts ([c] :: ws) (c :: rest) :=
  frontSpaced (List.cons_ne_nil c []) (by simpa using letter) parted behind

theorem letterSpaced {c : Char} (letter : parts c = false) {ws : List (List Char)} {cs : List Char}
    (spaced : Spaced parts ws cs) : Spaced parts (pushWord parts c cs ws) (c :: cs) := by
  cases spaced with
  | void blank =>
    cases cs with
    | nil => exact aloneSpaced letter (by simp) (.void blank)
    | cons d gap =>
      have next := blank d List.mem_cons_self
      rw [pushBlank next]
      exact aloneSpaced letter (by simpa using next) (.void blank)
  | @word gap w rest ws blank some letters parted behind =>
    -- The letter belongs to the next word only if no blank stands between them.
    cases gap with
    | nil =>
      obtain ⟨d, ds, rfl⟩ := List.exists_cons_of_ne_nil some
      rw [List.nil_append, List.cons_append, pushLetter (letters d List.mem_cons_self)]
      exact frontSpaced (List.cons_ne_nil c _) (List.forall_mem_cons.mpr ⟨letter, letters⟩) parted behind
    | cons d gap =>
      have next := blank d List.mem_cons_self
      rw [List.cons_append, pushBlank next]
      exact aloneSpaced letter (by simpa using next) (.word blank some letters parted behind)

theorem wordsSpaced (cs : List Char) : Spaced parts (wordsBy parts cs) cs := by
  induction cs with
  | nil => exact .void (by simp)
  | cons c cs ih =>
    rw [wordsBy]
    split
    · rename_i blank
      exact blankSpaced blank ih
    · rename_i letter
      exact letterSpaced (by simpa using letter) ih

theorem spacedLetters {ws : List (List Char)} {cs : List Char} (spaced : Spaced parts ws cs) :
    ∀ w ∈ ws, w ≠ [] ∧ ∀ c ∈ w, parts c = false := by
  induction spaced with
  | void blank => simp
  | word blank some letters parted behind ih => exact List.forall_mem_cons.mpr ⟨⟨some, letters⟩, ih⟩

theorem wordLetters {cs w : List Char} (member : w ∈ wordsBy parts cs) : w ≠ [] ∧ ∀ c ∈ w, parts c = false :=
  spacedLetters (wordsSpaced cs) w member

theorem blanksDropped {gap : List Char} (blank : ∀ c ∈ gap, parts c = true) :
    gap.filter (fun c => !parts c) = [] :=
  List.filter_eq_nil_iff.mpr fun c member => by simp [blank c member]

theorem lettersKept {w : List Char} (letters : ∀ c ∈ w, parts c = false) :
    w.filter (fun c => !parts c) = w :=
  List.filter_eq_self.mpr fun c member => by simp [letters c member]

theorem spacedFlat {ws : List (List Char)} {cs : List Char} (spaced : Spaced parts ws cs) :
    ws.flatten = cs.filter fun c => !parts c := by
  induction spaced with
  | void blank => rw [blanksDropped blank, List.flatten_nil]
  | word blank some letters parted behind ih =>
    rw [List.filter_append, List.filter_append, blanksDropped blank, lettersKept letters, ← ih]
    rfl

end
end TypoSearch.Text
