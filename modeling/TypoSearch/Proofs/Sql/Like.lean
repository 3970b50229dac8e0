import Mathlib.Data.List.Infix
import TypoSearch.Proofs.Sql.Clause

/-! Containment by a comparison with a pattern. In a pattern `%` stands for any text, `_` for any character,
and the escape character takes the meaning from the character behind it. The pattern that is written for
a term is met by the texts that hold the term and by no others, and this does not depend on the escape
character of an engine: it is named where the pattern has one. -/
namespace TypoSearch.Sql
open Number (Binary64)

namespace Like

inductive Item where
  | anyText
  | anyOne
  | exactly (c : Char)
  deriving DecidableEq, Repr

def Item.ofChar (c : Char) : Item :=
  if c = '%' then .anyText else if c = '_' then .anyOne else .exactly c

def itemsFrom (escape : Option Char) : (escaped : Bool) → List Char → Option (List Item)
  | false, [] => some []
  | true, [] => none
  | true, c :: cs => (itemsFrom escape false cs).map (.exactly c :: ·)
  | false, c :: cs =>
    if escape = some c then itemsFrom escape true cs else (itemsFrom escape false cs).map (.ofChar c :: ·)

def items (escape : Option Char) (cs : List Char) : Option (List Item) := itemsFrom escape false cs

def meets : List Item → List Char → Bool
  | [], cs => cs.isEmpty
  | .anyText :: rest, cs => cs.tails.any (meets rest)
  | .anyOne :: rest, cs => match cs with
    | [] => false
    | _ :: cs => meets rest cs
  | .exactly d :: rest, cs => match cs with
    | [] => false
    | c :: cs => c = d && meets rest cs

theorem meetsAnyText {rest : List Item} {cs : List Char} :
    meets (.anyText :: rest) cs = true ↔ ∃ before after, cs = before ++ after ∧ meets rest after = true := by
  simp only [meets, List.any_eq_true, List.mem_tails]
  constructor
  · rintro ⟨after, ⟨before, whole⟩, met⟩
    exact ⟨before, after, whole.symm, met⟩
  · rintro ⟨before, after, whole, met⟩
    exact ⟨after, ⟨before, whole.symm⟩, met⟩

theorem meetsExactly {term : List Char} {rest : List Item} {cs : List Char} :
    meets (term.map .exactly ++ rest) cs = true ↔ ∃ after, cs = term ++ after ∧ meets rest after = true := by
  induction term generalizing cs with
  | nil => simp
  | cons d term ih =>
    cases cs with
    | nil => simp [meets]
    | cons c cs =>
      simp only [List.map_cons, List.cons_append, meets, Bool.and_eq_true, decide_eq_true_eq, ih,
        List.cons.injEq]
      constructor
      · rintro ⟨rfl, after, whole, met⟩
        exact ⟨after, ⟨rfl, whole⟩, met⟩
      · rintro ⟨after, ⟨rfl, whole⟩, met⟩
        exact ⟨rfl, after, whole, met⟩

theorem meetsBetween {term cs : List Char} :
    meets (.anyText :: (term.map .exactly ++ [.anyText])) cs = true ↔ term <:+: cs := by
  have all (after : List Char) : meets [.anyText] after = true :=
    meetsAnyText.mpr ⟨after, [], (List.append_nil after).symm, rfl⟩
  simp only [meetsAnyText, meetsExactly, all, and_true]
  constructor
  · rintro ⟨before, _, rfl, after, rfl⟩
    exact ⟨before, after, List.append_assoc _ _ _⟩
  · rintro ⟨before, after, rfl⟩
    exact ⟨before, _, List.append_assoc _ _ _, after, rfl⟩

/-! ## What a written pattern consists of -/

theorem itemsPlain {escape : Option Char} {c : Char} (other : escape ≠ some c) (cs : List Char) :
    items escape (c :: cs) = (items escape cs).map (.ofChar c :: ·) := by
  rw [items, itemsFrom, if_neg other, items]

theorem itemsEscaped (c : Char) (cs : List Char) :
    items (some likeEscape) (likeEscape :: c :: cs) =
      (items (some likeEscape) cs).map (.exactly c :: ·) := by
  rw [items, itemsFrom, if_pos rfl, itemsFrom, items]

theorem ordinary {c : Char} (plain : isLikeSpecial c = false) :
    c ≠ likeEscape ∧ Item.ofChar c = .exactly c := by
  simp only [isLikeSpecial, Bool.or_eq_false_iff, decide_eq_false_iff_not] at plain
  obtain ⟨⟨escape, text⟩, one⟩ := plain
  exact ⟨escape, by rw [Item.ofChar, if_neg text, if_neg one]⟩

theorem escapeCons (c : Char) (cs : List Char) :
    escapeLike (c :: cs) = (if isLikeSpecial c then [likeEscape, c] else [c]) ++ escapeLike cs := by
  simp [escapeLike]

theorem itemsTerm (term rest : List Char) :
    items (some likeEscape) (escapeLike term ++ rest) =
      (items (some likeEscape) rest).map (term.map .exactly ++ ·) := by
  induction term with
  | nil => simp [escapeLike]
  | cons c term ih =>
    rw [escapeCons]
    by_cases special : isLikeSpecial c = true
    · rw [if_pos special, List.append_assoc, List.cons_append, List.cons_append, List.nil_append,
        itemsEscaped, ih]
      simp [Function.comp_def]
    · obtain ⟨other, exact⟩ := ordinary (Bool.eq_false_iff.mpr special)
      rw [if_neg special, List.append_assoc, List.singleton_append,
        itemsPlain (fun same => other (Option.some.inj same).symm), ih, exact]
      simp [Function.comp_def]

theorem escapeLength (term : List Char) : term.length ≤ (escapeLike term).length := by
  induction term with
  | nil => exact Nat.zero_le _
  | cons c term ih =>
    rw [escapeCons]
    split <;> simp only [List.length_append, List.length_cons, List.length_nil] <;> omega

theorem unescapedPlain {term : List Char} (same : escapeLike term = term) :
    ∀ c ∈ term, isLikeSpecial c = false := by
  induction term with
  | nil => simp
  | cons c term ih =>
    rw [escapeCons] at same
    by_cases special : isLikeSpecial c = true
    · -- An escaped character takes two places, and the rest at least as many as before.
      rw [if_pos special] at same
      have lengths := congrArg List.length same
      simp only [List.length_append, List.length_cons, List.length_nil] at lengths
      have least := escapeLength term
      omega
    · rw [if_neg special, List.singleton_append, List.cons.injEq] at same
      intro d member
      rcases List.mem_cons.mp member with rfl | inside
      · exact Bool.eq_false_iff.mpr special
      · exact ih same.2 d inside

theorem itemsUnescaped {escape : Option Char} (usual : escape = none ∨ escape = some likeEscape)
    {term : List Char} (plain : ∀ c ∈ term, isLikeSpecial c = false) (rest : List Char) :
    items escape (term ++ rest) = (items escape rest).map (term.map .exactly ++ ·) := by
  induction term with
  | nil => simp
  | cons c term ih =>
    obtain ⟨other, exact⟩ := ordinary (plain c List.mem_cons_self)
    have differs : escape ≠ some c := by
      rcases usual with rfl | rfl
      · simp
      · exact fun same => other (Option.some.inj same).symm
    rw [List.cons_append, itemsPlain differs, ih fun d inside => plain d (List.mem_cons_of_mem c inside),
      exact]
    simp [Function.comp_def]

/- The pattern reads the same in an engine without an escape character only because the escape is left unnamed
exactly where nothing needed it. -/
theorem itemsPattern {escape : Option Char} {term : List Char}
    (usual : escape = some likeEscape ∨ escape = none ∧ escapeLike term = term) :
    items escape (likePattern term) = some (.anyText :: (term.map .exactly ++ [.anyText])) := by
  have either : escape = none ∨ escape = some likeEscape := usual.symm.imp_left And.left
  have sign : escape ≠ some '%' := by rcases either with rfl | rfl <;> decide
  have ends : items escape ['%'] = some [.anyText] := by rw [itemsPlain sign]; rfl
  have body : items escape (escapeLike term ++ ['%']) = some (term.map .exactly ++ [.anyText]) := by
    rcases usual with rfl | ⟨rfl, same⟩
    · rw [itemsTerm, ends]
      rfl
    · rw [same, itemsUnescaped (.inl rfl) (unescapedPlain same), ends]
      rfl
  rw [likePattern, List.cons_append, itemsPlain sign, body]
  rfl

/-! ## Comparisons that ignore case
The engine folds each character of the pattern and of the text before it compares them. -/

structure Folding (fold : Char → Char) : Prop where
  fixed : ∀ c, isLikeSpecial c = true → fold c = c
  apart : ∀ c, isLikeSpecial (fold c) = true → isLikeSpecial c = true

section
variable {fold : Char → Char}

theorem foldSpecial (folding : Folding fold) (c : Char) : isLikeSpecial (fold c) = isLikeSpecial c := by
  rw [Bool.eq_iff_iff]
  refine ⟨folding.apart c, fun special => ?_⟩
  rw [folding.fixed c special]
  exact special

theorem foldEscape (folding : Folding fold) (term : List Char) :
    (escapeLike term).map fold = escapeLike (term.map fold) := by
  induction term with
  | nil => rfl
  | cons c term ih =>
    rw [List.map_cons, escapeCons, escapeCons, List.map_append, ih, foldSpecial folding]
    by_cases special : isLikeSpecial c = true
    · simp [special, folding.fixed likeEscape rfl]
    · simp [special]

theorem foldPattern (folding : Folding fold) (term : List Char) :
    (likePattern term).map fold = likePattern (term.map fold) := by
  simp [likePattern, foldEscape folding, folding.fixed '%' rfl]

end

/-! ## The comparison that a text writes -/

structure Comparison where
  pattern : String
  escape : Option String
  deriving DecidableEq, Repr

namespace Comparison

def ofTokens? (operator : String) : List Token → Option Comparison
  | [_, .word word, .literal pattern] => if word = operator then some ⟨pattern, none⟩ else none
  | [_, .word word, .literal pattern, .word keyword, .literal escape] =>
    if word = operator ∧ keyword = "ESCAPE" then some ⟨pattern, some escape⟩ else none
  | _ => none

/- Where no escape is named the engine's own is in force. An empty text names none at all, and a text of
several characters cannot be used. -/
def escapeIn (standard : Option Char) (c : Comparison) : Option (Option Char) :=
  match c.escape.map String.toList with
  | none => some standard
  | some [] => some none
  | some [e] => some (some e)
  | some _ => none

def holds (standard : Option Char) (fold : Char → Char) (c : Comparison) (text : String) : Option Bool := do
  let escape ← c.escapeIn standard
  let items ← items escape (c.pattern.toList.map fold)
  return meets items (text.toList.map fold)

def ofTerm (term : String) : Comparison :=
  ⟨String.ofList (likePattern term.toList),
    if escapeLike term.toList = term.toList then none else some likeEscape.toString⟩

theorem ofTermTokens (d : Dialect) (column term : String) :
    ofTokens? d.containsOperator (Layout.like d column term) = some (ofTerm term) := by
  unfold Layout.like ofTerm
  dsimp only
  split <;> simp [ofTokens?]

theorem ofTermEscape {standard : Option Char} (usual : standard = none ∨ standard = some likeEscape)
    (term : String) : ∃ escape, (ofTerm term).escapeIn standard = some escape ∧
      (escape = some likeEscape ∨ escape = none ∧ escapeLike term.toList = term.toList) := by
  unfold ofTerm
  split
  · rename_i same
    refine ⟨standard, rfl, ?_⟩
    rcases usual with rfl | rfl
    · exact .inr ⟨rfl, same⟩
    · exact .inl rfl
  · exact ⟨some likeEscape, rfl, .inl rfl⟩

theorem ofTermHolds {standard : Option Char} (usual : standard = none ∨ standard = some likeEscape)
    {fold : Char → Char} (folding : Folding fold) (term text : String) :
    (ofTerm term).holds standard fold text = some (decide (term.toList.map fold <:+: text.toList.map fold)) := by
  obtain ⟨escape, inForce, either⟩ := ofTermEscape usual term
  have folded : escape = some likeEscape ∨
      escape = none ∧ escapeLike (term.toList.map fold) = term.toList.map fold := by
    refine either.imp_right fun ⟨unnamed, same⟩ => ⟨unnamed, ?_⟩
    rw [← foldEscape folding, same]
  have pattern : (ofTerm term).pattern.toList.map fold = likePattern (term.toList.map fold) := by
    rw [ofTerm, String.toList_ofList, foldPattern folding]
  have met : meets (.anyText :: ((term.toList.map fold).map .exactly ++ [.anyText])) (text.toList.map fold) =
      decide (term.toList.map fold <:+: text.toList.map fold) := by
    rw [Bool.eq_iff_iff, meetsBetween, decide_eq_true_eq]
  rw [holds, inForce, pattern]
  simp only [bind, Option.bind, itemsPattern folded, pure, met]

end Comparison
end Like

theorem likeContains {column : String} (nonempty : column ≠ "") (term : String) :
    ∃ predicate ts comparison,
      Clause.termPredicate Dialect.postgres (⟨term, .contains⟩ : TermCheck String Binary64)
        (.text column) = .ok predicate ∧
      tokens Dialect.postgres.quoting (predicate.text Dialect.postgres).toList = some ts ∧
      Like.Comparison.ofTokens? Dialect.postgres.containsOperator ts = some comparison ∧
      ∀ standard, standard = none ∨ standard = some likeEscape →
        (∀ text : String, comparison.holds standard id text = some (decide (term.toList <:+: text.toList))) ∧
        ∀ fold, Like.Folding fold → ∀ text : String, comparison.holds standard fold text =
          some (decide (term.toList.map fold <:+: text.toList.map fold)) := by
  have legible : Dialect.postgres.Legible := builtinLegible (by decide)
  refine ⟨_, _, _, Clause.termPredicateText nonempty _, likeRead legible column term,
    Like.Comparison.ofTermTokens Dialect.postgres column term, fun standard usual => ⟨fun text => ?_, ?_⟩⟩
  · have same : Like.Folding id := ⟨fun _ _ => rfl, fun _ special => special⟩
    simpa using Like.Comparison.ofTermHolds usual same term text
  · exact fun fold folding => Like.Comparison.ofTermHolds usual folding term

theorem lettersFolding : Like.Folding Char.toLower := by
  refine ⟨fun c special => ?_, fun c special => ?_⟩
  · simp only [isLikeSpecial, Bool.or_eq_true, decide_eq_true_eq] at special
    rcases special with (rfl | rfl) | rfl <;> decide
  · unfold Char.toLower at special
    split at special
    · -- No sign with a meaning stands where the lower letters stand.
      rename_i upper
      simp only [isLikeSpecial, Bool.or_eq_true, decide_eq_true_eq, likeEscape, Char.ext_iff] at special
      simp only [UInt32.le_iff_toNat_le, ge_iff_le] at upper
      rcases special with (same | same) | same <;>
      · have number := congrArg UInt32.toNat same
        simp at number upper
        omega
    · exact special

theorem likeContainsSigns :
    ∃ predicate ts comparison,
      Clause.termPredicate Dialect.postgres (⟨"50%_oFF\\", .contains⟩ : TermCheck String Binary64)
        (.text "title") = .ok predicate ∧
      tokens Dialect.postgres.quoting (predicate.text Dialect.postgres).toList = some ts ∧
      Like.Comparison.ofTokens? Dialect.postgres.containsOperator ts = some comparison ∧
      comparison.holds none Char.toLower "Save 50%_Off\\ now" = some true ∧
      comparison.holds none Char.toLower "Save 500_Off\\ now" = some false := by
  obtain ⟨predicate, ts, comparison, made, read, taken, each⟩ :=
    likeContains (by decide : "title" ≠ "") "50%_oFF\\"
  have folded := (each none (.inl rfl)).2 Char.toLower lettersFolding
  refine ⟨predicate, ts, comparison, made, read, taken, (folded _).trans ?_, (folded _).trans ?_⟩
  · decide +kernel
  · decide +kernel

end TypoSearch.Sql
