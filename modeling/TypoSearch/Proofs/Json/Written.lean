import TypoSearch.Json.Writer
import TypoSearch.Proofs.Json.Grammar
import TypoSearch.Proofs.Value

/-! What the writer writes of values without fractions and dates: documents that say the value, on one line or
indented, since line breaks and blanks stand only where the grammar has blanks. -/
namespace TypoSearch.Json
open Number (Digit Digit.char digitChars digits ofDigits ofDigitsDigits)

/-! ## Texts -/

theorem codeSpelled {n : Nat} (control : n < 0x20) :
    hexNumber? (Text.hexDigits 4 n) = some n ∧ isHighSurrogate n = false ∧ isLowSurrogate n = false := by
  revert n
  decide

theorem escapeCases (c : Char) : (∃ d, (d, c) ∈ escapes ∧ escapeChar c = ['\\', d]) ∨
    (c.toNat < 0x20 ∧ escapeChar c = '\\' :: 'u' :: Text.hexDigits 4 c.toNat) ∨
    (c ≠ '"' ∧ c ≠ '\\' ∧ 0x20 ≤ c.toNat ∧ escapeChar c = [c]) := by
  unfold escapeChar
  split_ifs <;> simp_all [escapes]

theorem letterSpelled (c : Char) {cs s : List Char} (letters : Letters cs s) :
    Letters (escapeChar c ++ cs) (c :: s) := by
  rcases escapeCases c with ⟨d, known, spelled⟩ | ⟨control, spelled⟩ | ⟨quote, escape, visible, spelled⟩
  · rw [spelled]
    exact .escaped known letters
  · obtain ⟨number, whole⟩ := codeSpelled control
    have code := Letters.code number whole letters
    rw [Char.ofNat_toNat] at code
    rw [spelled]
    exact code
  · rw [spelled]
    exact .plain quote escape visible letters

theorem lettersSpelled (s : List Char) : Letters (s.flatMap escapeChar) s := by
  induction s with
  | nil => exact .nil
  | cons c s ih => exact letterSpelled c ih

theorem textQuoted (s : String) : (textOf s).toList = '"' :: (s.toList.flatMap escapeChar ++ ['"']) := by
  rw [textOf, String.toList_ofList]
  rfl

theorem textSpelled (s : String) : Spells (.value (.text s)) (textOf s).toList := by
  rw [textQuoted]
  simpa using Spells.text (lettersSpelled s.toList)

/-! ## Integers -/

theorem digitsFirst (n : Nat) : ∃ d ds, digits n = d :: ds ∧ (d = 0 → ds = []) := by
  fun_induction digits n with
  | case1 n small => exact ⟨_, [], rfl, fun _ => rfl⟩
  | case2 n large ih =>
    obtain ⟨d, ds, first, leading⟩ := ih
    refine ⟨d, _, by rw [first]; rfl, fun zero => ?_⟩
    have value := ofDigitsDigits (n / 10)
    rw [first, leading zero, zero] at value
    simp [ofDigits] at value
    omega

theorem toDigitsChars (n : Nat) : Nat.toDigits 10 n = digitChars (digits n) := by
  have one : ∀ d : Digit, Nat.digitChar d.val = d.char := by decide
  fun_induction digits n with
  | case1 n small =>
    rw [Nat.toDigits_of_lt_base small]
    simpa [digitChars, Fin.ofNat, Nat.mod_eq_of_lt small] using one (Fin.ofNat 10 n)
  | case2 n large ih =>
    rw [Nat.toDigits_of_base_le (by decide) (Nat.not_lt.mp large), ih]
    simpa [digitChars, Fin.ofNat] using one (Fin.ofNat 10 n)

theorem intSpelled (i : Int) : Spells (.value (.int i)) (toString i).toList := by
  have natural : ∀ negative n, Spells (.value (.int (signed negative n)))
      (Number.Numeral.signChars negative ++ (toString n).toList) := by
    intro negative n
    obtain ⟨d, ds, first, leading⟩ := digitsFirst n
    have value : n = ofDigits (d :: ds) := by rw [← first, ofDigitsDigits]
    have chars : (toString n).toList = digitChars (d :: ds) := by
      rw [← first, ← toDigitsChars]
      exact String.toList_ofList
    rw [chars, value]
    exact .int negative leading
  cases i with
  | ofNat n => exact natural false n
  | negSucc n =>
    have spelled : (toString (Int.negSucc n)).toList = '-' :: (toString (n + 1)).toList := by
      exact String.toList_append
    rw [spelled]
    exact natural true (n + 1)

/-! ## Spacing -/

structure Spacing.Blank (sp : Spacing) : Prop where
  lines : ∀ depth, Json.Blank (sp.lineBreak depth).toList
  colon : ∃ b, Json.Blank b ∧ sp.afterKey.toList = ':' :: b

theorem blanksPushed (n : Nat) : ("".pushn ' ' n).toList = List.replicate n ' ' := by
  induction n with
  | zero => rfl
  | succ n ih =>
    have pushed : "".pushn ' ' (n + 1) = ("".pushn ' ' n).push ' ' := rfl
    rw [pushed, String.toList_push, ih, List.replicate_succ']

theorem noBlank : Blank [] := by simp [Blank]

theorem blankIndented : Spacing.indented.Blank := by
  refine ⟨fun depth => ?_, [' '], by simp [Blank, isSpace], rfl⟩
  have spelled : (Spacing.indented.lineBreak depth).toList = '\n' :: List.replicate (2 * depth) ' ' := by
    rw [Spacing.indented, String.toList_append, blanksPushed]
    rfl
  rw [spelled]
  intro c member
  rcases List.mem_cons.mp member with rfl | blank
  · rfl
  · obtain rfl := List.eq_of_mem_replicate blank
    rfl

/-! ## Containers -/

/-- Values of which a document says everything: no fractions and no dates, and texts as keys. -/
inductive Portable : Value → Prop
  | null : Portable .null
  | bool (b : Bool) : Portable (.bool b)
  | int (i : Int) : Portable (.int i)
  | text (s : String) : Portable (.text s)
  | list {xs : List Value} (items : ∀ x ∈ xs, Portable x) : Portable (.list xs)
  | dict {fields : List (String × Value)} (distinct : (fields.map (·.1)).Nodup)
      (values : ∀ f ∈ fields, Portable f.2) : Portable (.dict (fields.map fun f => (.text f.1, f.2)))

theorem enclosedEmpty (sp : Spacing) (depth : Nat) (opening closing : String) :
    enclosed sp depth opening closing [] = opening ++ closing := rfl

theorem enclosedParts (sp : Spacing) (depth : Nat) (opening closing : String) (part : String) (parts : List String) :
    (enclosed sp depth opening closing (part :: parts)).toList = opening.toList ++ ((sp.lineBreak (depth + 1)).toList ++
      (((',' :: (sp.lineBreak (depth + 1)).toList).intercalate ((part :: parts).map String.toList)) ++
        (sp.lineBreak depth).toList) ++ closing.toList) := by
  rw [enclosed, if_neg (by simp)]
  simp [String.toList_append, String.toList_intercalate]

theorem itemsSpelled {line last : List Char} (first : Blank line) (after : Blank last) (f : Value → List Char)
    {x : Value} {xs : List Value} (spelled : ∀ y ∈ x :: xs, Spells (.value y) (f y)) :
    Spells (.items (x :: xs)) (line ++ ((',' :: line).intercalate ((x :: xs).map f) ++ last)) := by
  induction xs generalizing x with
  | nil => simpa using Spells.item first (spelled x (by simp)) after
  | cons y ys ih =>
    have head := spelled x (.head _)
    have rest := ih fun z member => spelled z (.tail _ member)
    simpa using Spells.items first head noBlank rest

theorem entriesSpelled {line last b : List Char} (first : Blank line) (after : Blank last) (within : Blank b)
    (f : Value → List Char) {x : String × Value} {fields : List (String × Value)}
    (spelled : ∀ y ∈ x :: fields, Spells (.value y.2) (f y.2)) :
    Spells (.entries ((x :: fields).map fun y => (.text y.1, y.2)))
      (line ++ ((',' :: line).intercalate ((x :: fields).map fun y => (textOf y.1).toList ++ ':' :: b ++ f y.2) ++
        last)) := by
  induction fields generalizing x with
  | nil =>
    simpa [textQuoted] using Spells.entry first (lettersSpelled x.1.toList) noBlank within
      (spelled x (.head _)) after
  | cons y ys ih =>
    have rest := ih fun z member => spelled z (.tail _ member)
    simpa [textQuoted] using Spells.entries first (lettersSpelled x.1.toList) noBlank within
      (spelled x (.head _)) noBlank rest

theorem itemTextsMap (sp : Spacing) (depth : Nat) (xs : List Value) :
    itemTexts sp depth xs = xs.map (document sp depth) := by
  induction xs with
  | nil => rfl
  | cons x xs ih => rw [itemTexts, ih, List.map_cons]

theorem entryTextsMap (sp : Spacing) (depth : Nat) (fields : List (String × Value)) :
    entryTexts sp depth (fields.map fun f => (.text f.1, f.2)) =
      fields.map fun f => textOf f.1 ++ sp.afterKey ++ document sp depth f.2 := by
  induction fields with
  | nil => rfl
  | cons f fields ih => 
    simp only [List.map_cons, entryTexts, ih, keyText]

theorem fieldsDistinct {fields : List (String × Value)} (distinct : (fields.map (·.1)).Nodup) :
    Entries.ofPairs (fields.map fun f => (Key.text f.1, f.2)) = fields.map fun f => (Key.text f.1, f.2) := by
  apply Entries.ofDistinct
  have names : Entries.keys (fields.map fun f => (Key.text f.1, f.2)) = (fields.map (·.1)).map .text := by
    simp [Entries.keys]
  rw [names]
  exact Key.distinctTexts distinct

theorem spelled {sp : Spacing} (blank : sp.Blank) {v : Value} (portable : Portable v) :
    ∀ depth, Spells (.value v) (document sp depth v).toList := by
  obtain ⟨b, within, colon⟩ := blank.colon
  induction portable with
  | null =>
    intro depth
    simpa [document] using Spells.null
  | bool c =>
    intro depth
    cases c
    · simpa [document, boolText] using Spells.no
    · simpa [document, boolText] using Spells.yes
  | int i => exact fun _ => intSpelled i
  | text s => exact fun _ => textSpelled s
  | @list xs items ih =>
    intro depth
    rw [document, itemTextsMap]
    cases xs with
    | nil => simpa [enclosedEmpty] using Spells.noItems noBlank
    | cons x xs =>
      have inner := itemsSpelled (blank.lines (depth + 1)) (blank.lines depth)
        (fun y => (document sp (depth + 1) y).toList) fun y member => ih y member (depth + 1)
      rw [List.map_cons, enclosedParts]
      simpa [Function.comp_def] using Spells.list inner
  | @dict fields distinct values ih =>
    intro depth
    rw [document, entryTextsMap]
    cases fields with
    | nil => simpa [enclosedEmpty] using Spells.noEntries noBlank
    | cons x fields =>
      have inner := entriesSpelled (blank.lines (depth + 1)) (blank.lines depth) within
        (fun y => (document sp (depth + 1) y).toList) fun y member => ih y member (depth + 1)
      have whole := Spells.dict inner
      rw [fieldsDistinct distinct] at whole
      simp only [List.map_cons, enclosedParts]
      simpa [colon, Function.comp_def] using whole

theorem written {sp : Spacing} (blank : sp.Blank) {v : Value} (portable : Portable v) :
    Document v (document sp 0 v) :=
  .value noBlank (spelled blank portable 0) noBlank (by simp)

theorem indentedWritten {v : Value} (portable : Portable v) : Document v (indented v) :=
  written blankIndented portable

end TypoSearch.Json
