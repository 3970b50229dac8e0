import Mathlib.Data.List.TakeWhile
import TypoSearch.Proofs.Config.Settings

/-! The names that a clause may call a similarity function by. Such a name is written into the clause as it is,
so it has to be a plain name, perhaps behind the name of its schema. All of these are accepted; what is accepted
besides is such a name with one line break behind it. -/
namespace TypoSearch.Sql

namespace FunctionName

def letters : List Nat := List.range' 0x41 26 ++ List.range' 0x61 26 ++ [0x5F]

def figures : List Nat := List.range' 0x30 10

def Plain : List Char → Prop
  | [] => False
  | c :: cs => c.toNat ∈ letters ∧ ∀ d ∈ cs, d.toNat ∈ letters ∨ d.toNat ∈ figures

inductive Qualified : List Char → Prop where
  | alone {cs} (name : Plain cs) : Qualified cs
  | inSchema {schema cs} (outer : Plain schema) (name : Plain cs) : Qualified (schema ++ '.' :: cs)

def LineBroken (cs : List Char) : Prop := ∃ name, Qualified name ∧ cs = name ++ ['\n']

/-! ## Letters and names -/

theorem startsLetters (c : Char) : startsName c = true ↔ c.toNat ∈ letters := by
  have small : ('a' ≤ c ∧ c ≤ 'z') ↔ 0x61 ≤ c.toNat ∧ c.toNat ≤ 0x7A := Iff.rfl
  have capital : ('A' ≤ c ∧ c ≤ 'Z') ↔ 0x41 ≤ c.toNat ∧ c.toNat ≤ 0x5A := Iff.rfl
  have underscore : c = '_' ↔ c.toNat = 0x5F := Char.toNat_inj.symm
  simp only [startsName, isLower, isUpper, letters, Bool.or_eq_true, Bool.and_eq_true, decide_eq_true_eq,
    List.mem_append, List.mem_range'_1, List.mem_singleton, small, capital, underscore]
  omega

theorem continuesLetters (c : Char) : continuesName c = true ↔ c.toNat ∈ letters ∨ c.toNat ∈ figures := by
  have figure : ('0' ≤ c ∧ c ≤ '9') ↔ 0x30 ≤ c.toNat ∧ c.toNat ≤ 0x39 := Iff.rfl
  have digit : isDigit c = true ↔ c.toNat ∈ figures := by
    simp only [isDigit, figures, Bool.and_eq_true, decide_eq_true_eq, List.mem_range'_1, figure]
    omega
  rw [continuesName, Bool.or_eq_true, startsLetters, digit]

theorem wordPlain {cs : List Char} : isWord startsName continuesName cs = true ↔ Plain cs := by
  cases cs with
  | nil => simp [isWord, Plain]
  | cons c cs => simp only [isWord, Plain, Bool.and_eq_true, List.all_eq_true, startsLetters, continuesLetters]

theorem plainContinues {cs : List Char} (plain : Plain cs) : ∀ c ∈ cs, continuesName c = true := by
  cases cs with
  | nil => exact nofun
  | cons d ds =>
    rw [List.forall_mem_cons]
    exact ⟨(continuesLetters d).mpr (.inl plain.1), fun c member => (continuesLetters c).mpr (plain.2 c member)⟩

theorem plainDotless {cs : List Char} (plain : Plain cs) : ∀ c ∈ cs, (c != '.') = true := by
  intro c member
  rw [bne_iff_ne]
  rintro rfl
  exact absurd (plainContinues plain _ member) (by decide)

theorem qualifiedUnbroken {cs : List Char} (qualified : Qualified cs) : '\n' ∉ cs := by
  have unbroken {name : List Char} (plain : Plain name) : '\n' ∉ name :=
    fun member => absurd (plainContinues plain _ member) (by decide)
  cases qualified with
  | alone name => exact unbroken name
  | inSchema outer name => simp [unbroken outer, unbroken name]

/-! ## What is accepted -/

theorem acceptedWhole {s : String} : isFunctionName s = true ↔ Qualified (Text.dropLineEnd s.toList) := by
  unfold isFunctionName
  generalize Text.dropLineEnd s.toList = cs
  dsimp only
  constructor
  · intro accepted
    have parts := List.takeWhile_append_dropWhile (p := (· != '.')) (l := cs)
    split at accepted
    · rename_i noDot
      rw [noDot, List.append_nil] at parts
      rw [← parts]
      exact .alone (wordPlain.mp accepted)
    · rename_i c second dotted
      have stops := List.head?_dropWhile_not (· != '.') cs
      rw [dotted] at stops parts
      have dot : c = '.' := by simpa using stops
      rw [Bool.and_eq_true] at accepted
      rw [← parts, dot]
      exact .inSchema (wordPlain.mp accepted.1) (wordPlain.mp accepted.2)
  · intro qualified
    cases qualified with
    | alone name =>
      rw [List.takeWhile_eq_self_iff.mpr (plainDotless name), List.dropWhile_eq_nil_iff.mpr (plainDotless name)]
      exact wordPlain.mpr name
    | inSchema outer name =>
      rw [List.takeWhile_append_of_pos (plainDotless outer), List.dropWhile_append_of_pos (plainDotless outer),
        List.takeWhile_cons_of_neg (by simp), List.dropWhile_cons_of_neg (by simp), List.append_nil]
      exact Bool.and_eq_true_iff.mpr ⟨wordPlain.mpr outer, wordPlain.mpr name⟩

theorem wholeOrBroken {cs : List Char} :
    Qualified (Text.dropLineEnd cs) ↔ Qualified cs ∨ LineBroken cs := by
  unfold Text.dropLineEnd
  split
  · rename_i last
    obtain ⟨front, rfl⟩ := List.getLast?_eq_some_iff.mp last
    rw [List.dropLast_concat]
    constructor
    · exact fun qualified => .inr ⟨front, qualified, rfl⟩
    · rintro (whole | ⟨name, qualified, same⟩)
      · exact absurd (List.mem_append_right front List.mem_cons_self) (qualifiedUnbroken whole)
      · rwa [(List.append_inj_left' same rfl)]
  · rename_i unbroken
    refine ⟨.inl, fun either => either.resolve_right ?_⟩
    rintro ⟨name, _, rfl⟩
    exact unbroken List.getLast?_concat

theorem accepted (s : String) : isFunctionName s = true ↔ Qualified s.toList ∨ LineBroken s.toList :=
  acceptedWhole.trans wholeOrBroken

end FunctionName

section
open FunctionName

/-- A name is taken if it is a plain one, perhaps in a schema, with at most one line break behind it. Nothing else
about the dialect changes, and settings need no other condition on the name. -/
theorem plainNamesTaken (d : Dialect) (function : String) :
    ((∃ e, d.withSimilarityFunction function = .ok e) ↔
      Qualified function.toList ∨ LineBroken function.toList) ∧
    (∀ e, d.withSimilarityFunction function = .ok e → e = { d with similarityFunction := function }) ∧
    (¬(Qualified function.toList ∨ LineBroken function.toList) →
      d.withSimilarityFunction function = .error (.functionName function)) ∧
    ∀ s : ClauseSettings, s.similarityFunction = function → s.dialect ∈ Dialect.names → 0 ≤ s.maxTypos →
      (Config.checkClause s = .ok () ↔ Qualified function.toList ∨ LineBroken function.toList) := by
  rw [← accepted]
  refine ⟨?_, fun e made => (Dialect.renamedOk.mp made).2.symm, fun refused => if_neg refused, ?_⟩
  · simp only [Dialect.renamedOk, exists_and_left, exists_eq', and_true]
  · rintro s rfl known budget
    rw [Config.checkClauseOk]
    exact ⟨fun passed => passed.2.2, fun named => ⟨known, budget, named⟩⟩

end

section
open FunctionName

theorem plainNamesTakenSchema :
    Dialect.sqlite.withSimilarityFunction "Fuzzy_2._score" =
        .ok { Dialect.sqlite with similarityFunction := "Fuzzy_2._score" } ∧
      Config.checkClause ⟨"postgres", "Fuzzy_2._score", 0, .and, .or⟩ = .ok () ∧
      Dialect.postgres.withSimilarityFunction "a.b.c" = .error (.functionName "a.b.c") := by
  have named : Qualified "Fuzzy_2._score".toList :=
    @Qualified.inSchema "Fuzzy_2".toList "_score".toList (wordPlain.mp (by decide)) (wordPlain.mp (by decide))
  obtain ⟨taken, only, _, configured⟩ := plainNamesTaken .sqlite "Fuzzy_2._score"
  obtain ⟨e, made⟩ := taken.mpr (.inl named)
  have same := only e made
  subst same
  have refused : ¬(Qualified "a.b.c".toList ∨ LineBroken "a.b.c".toList) :=
    mt (accepted "a.b.c").mpr (by decide +kernel)
  exact ⟨made, (configured ⟨"postgres", "Fuzzy_2._score", 0, .and, .or⟩ rfl (by decide) (by decide)).mpr (.inl named),
    (plainNamesTaken .postgres "a.b.c").2.2.1 refused⟩

theorem lineBrokenTaken :
    ¬Qualified "word_similarity\n".toList ∧
      Dialect.postgres.withSimilarityFunction "word_similarity\n" =
        .ok { Dialect.postgres with similarityFunction := "word_similarity\n" } ∧
      Dialect.sqlite.withSimilarityFunction "word_similarity\n" =
        .ok { Dialect.sqlite with similarityFunction := "word_similarity\n" } ∧
      Config.checkClause ⟨"postgres", "word_similarity\n", 1, .or, .and⟩ = .ok () := by
  have taken : isFunctionName "word_similarity\n" = true := by decide
  exact ⟨fun qualified => qualifiedUnbroken qualified (by decide), Dialect.renamedOk.mpr ⟨taken, rfl⟩,
    Dialect.renamedOk.mpr ⟨taken, rfl⟩, Config.checkClauseOk.mpr ⟨by decide, by decide, taken⟩⟩

end
end TypoSearch.Sql
