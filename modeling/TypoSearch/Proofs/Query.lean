import TypoSearch.Proofs.Text.Words
import TypoSearch.Query

/-! The terms of a query are the words that its text is laid out from. What parts them is every character that
the Unicode standard counts as space: the separators of class Zs, and the characters whose direction is that of
white space, of a paragraph end or of a segment end. -/
namespace TypoSearch

namespace Text

def spaceSeparators : List Nat := [0x20, 0xA0, 0x1680] ++ List.range' 0x2000 11 ++ [0x202F, 0x205F, 0x3000]

def whiteSpaces : List Nat := [0x0C, 0x20, 0x1680] ++ List.range' 0x2000 11 ++ [0x2028, 0x205F, 0x3000]

def paragraphEnds : List Nat := [0x0A, 0x0D, 0x1C, 0x1D, 0x1E, 0x85, 0x2029]

def segmentEnds : List Nat := [0x09, 0x0B, 0x1F]

def spaces : List Nat := spaceSeparators ++ whiteSpaces ++ paragraphEnds ++ segmentEnds

theorem blankSpaces (c : Char) : isBlank c = true ↔ c.toNat ∈ spaces := by
  simp only [isBlank, spaces, spaceSeparators, whiteSpaces, paragraphEnds, segmentEnds, List.mem_append,
    List.mem_cons, List.mem_range'_1, List.not_mem_nil, or_false, Bool.or_eq_true, Bool.and_eq_true,
    decide_eq_true_eq, beq_iff_eq]
  omega

end Text

namespace Query
open Text (Spaced isBlank)

theorem termsLetters (raw : String) : (terms raw).map String.toList = Text.words raw.toList := by
  simp [terms, Function.comp_def]

theorem termsSpaced {raw : String} {ws : List String} :
    termsOf (.text raw) = .ok ws ↔ Spaced isBlank (ws.map String.toList) raw.toList := by
  have letters : terms raw = ws ↔ Text.words raw.toList = ws.map String.toList := by
    rw [← termsLetters]
    exact (List.map_inj_right fun _ _ => String.toList_inj.mp).symm
  rw [termsOf, Except.ok.injEq, letters]
  constructor
  · intro same
    rw [← same]
    exact Text.wordsSpaced raw.toList
  · exact Text.spacedWords

theorem termLetters {raw t : String} (member : t ∈ terms raw) :
    t ≠ "" ∧ ∀ c ∈ t.toList, isBlank c = false := by
  obtain ⟨w, inside, rfl⟩ := List.mem_map.mp member
  obtain ⟨some, letters⟩ := Text.wordLetters inside
  rw [String.toList_ofList]
  exact ⟨by simpa using some, letters⟩

theorem termsFlat (raw : String) :
    (terms raw).flatMap String.toList = raw.toList.filter fun c => !isBlank c := by
  rw [List.flatMap_def, termsLetters]
  exact Text.spacedFlat (Text.wordsSpaced raw.toList)

theorem termsJoined (raw behind : String) {gap : String} (some : gap ≠ "")
    (blank : ∀ c ∈ gap.toList, isBlank c = true) : terms (raw ++ gap ++ behind) = terms raw ++ terms behind := by
  obtain ⟨c, cs, first⟩ := List.exists_cons_of_ne_nil (mt String.toList_eq_nil_iff.mp some)
  rw [first, List.forall_mem_cons] at blank
  simp only [terms, String.toList_append, first, List.append_assoc, List.cons_append, Text.words]
  rw [Text.wordsParted blank.1, Text.wordsBehind blank.2, List.map_append]

theorem termsParted (raw : String) :
    (∀ ws : List String,
      termsOf (.text raw) = .ok ws ↔ Spaced isBlank (ws.map String.toList) raw.toList) ∧
    (∃ ws, termsOf (.text raw) = .ok ws ∧ (∀ t ∈ ws, t ≠ "" ∧ ∀ c ∈ t.toList, isBlank c = false) ∧
      ws.flatMap String.toList = raw.toList.filter fun c => !isBlank c) ∧
    (∀ gap behind : String, gap ≠ "" → (∀ c ∈ gap.toList, isBlank c = true) →
      terms (raw ++ gap ++ behind) = terms raw ++ terms behind) ∧
    ∀ c, isBlank c = true ↔ c.toNat ∈ Text.spaces :=
  ⟨fun _ => termsSpaced, ⟨terms raw, rfl, fun _ => termLetters, termsFlat raw⟩,
    fun _ behind => termsJoined raw behind, Text.blankSpaces⟩

theorem termsPartedTwice :
    Spaced isBlank ["ab".toList] "\u2003ab\t".toList ∧ termsOf (.text "\u2003ab\t") = .ok ["ab"] ∧
    ("\u3000\n" ≠ "" ∧ ∀ c ∈ "\u3000\n".toList, isBlank c = true) ∧
    terms ("\u2003ab\t" ++ "\u3000\n" ++ "ab\x1c") = terms "\u2003ab\t" ++ terms "ab\x1c" := by
  have spaced : Spaced isBlank ["ab".toList] "\u2003ab\t".toList :=
    @Spaced.word isBlank ['\u2003'] ['a', 'b'] ['\t'] [] (List.all_eq_true.mp (by decide)) (by decide)
      (by simp [isBlank]) (by simp [isBlank]) (.void (List.all_eq_true.mp (by decide)))
  have some : "\u3000\n" ≠ "" := by decide
  have blank : ∀ c ∈ "\u3000\n".toList, isBlank c = true := List.all_eq_true.mp (by decide)
  exact ⟨spaced, ((termsParted "\u2003ab\t").1 ["ab"]).mpr spaced, ⟨some, blank⟩,
    (termsParted "\u2003ab\t").2.2.1 "\u3000\n" "ab\x1c" some blank⟩

end Query
end TypoSearch
