import TypoSearch.Proofs.Plan.Terms
import TypoSearch.Proofs.Sql.Lexeme
import TypoSearch.Sql.Clause

/-! The tokens that a predicate is written as: a fully parenthesized tree. The text of a predicate is read
back as exactly these, whatever the patterns and the names are made of. -/
namespace TypoSearch.Sql
open Number (Binary64)
open Outcome (bindOk pureOk mapOk relatedMap)

namespace Layout

def inParentheses (ts : List Token) : List Token := .mark '(' :: ts ++ [.mark ')']

def joined (logic : Logic) (parts : List (List Token)) : List Token :=
  inParentheses ([.word logic.word].intercalate parts)

def call (function : String) (first second : Token) : List Token :=
  functionTokens function ++ inParentheses [first, .mark ',', second]

def like (d : Dialect) (column pattern : String) : List Token :=
  let escape := if escapeLike pattern.toList = pattern.toList then []
    else [Token.word "ESCAPE", .literal likeEscape.toString]
  d.quoting.identifierToken column :: .word d.containsOperator ::
    .literal (String.ofList (likePattern pattern.toList)) :: escape

def contains (d : Dialect) (column pattern : String) : List Token :=
  match d.function? with
  | some function => call function (d.quoting.identifierToken column) (.literal pattern)
  | none => like d column pattern

def similar (d : Dialect) (pattern column : String) (cutoff : Binary64) : List Token :=
  call d.similarityFunction (.literal pattern) (d.quoting.identifierToken column) ++
    [.atLeast, .numeral cutoff.plainText]

def check (d : Dialect) (column : String) (c : TermCheck String Binary64) : List Token :=
  match c.regime with
  | .contains => contains d column c.pattern
  | .similarity cutoff => similar d c.pattern column cutoff

def clause (d : Dialect) (plan : ColumnSet String Binary64) (columns : List String) : List Token :=
  joined plan.logic (columns.map fun column =>
    joined plan.termSet.logic (plan.termSet.checks.map (check d column)))

end Layout

namespace Predicate

mutual

def layout (d : Dialect) : Predicate → List Token
  | constant value => [.word (d.constant value)]
  | contains column pattern => Layout.contains d column pattern
  | similar pattern column cutoff => Layout.similar d pattern column cutoff
  | group logic members => Layout.joined logic (layouts d members)

def layouts (d : Dialect) : List Predicate → List (List Token)
  | [] => []
  | p :: ps => layout d p :: layouts d ps

end

theorem layoutsMap (d : Dialect) (ps : List Predicate) : layouts d ps = ps.map (layout d) := by
  induction ps with
  | nil => rw [layouts, List.map_nil]
  | cons p ps ih => rw [layouts, ih, List.map_cons]

theorem textsMap (d : Dialect) (ps : List Predicate) : texts d ps = ps.map (text d) := by
  induction ps with
  | nil => rw [texts, List.map_nil]
  | cons p ps ih => rw [texts, ih, List.map_cons]

inductive Proper : Predicate → Prop
  | constant {value} : Proper (constant value)
  | contains {column pattern} : Proper (contains column pattern)
  | similar {pattern column cutoff} (share : Cutoff.IsShare cutoff) :
      Proper (similar pattern column cutoff)
  | group {logic members} (some : members ≠ []) (each : ∀ p ∈ members, Proper p) :
      Proper (group logic members)

end Predicate

structure Dialect.Legible (d : Dialect) : Prop where
  operator : isWord startsName continuesName d.containsOperator.toList
  containment : ∀ f, d.function? = some f → isFunctionName f
  similarity : isFunctionName d.similarityFunction
  constant : ∀ value, isWord startsName continuesName (d.constant value).toList

theorem builtinLegible {base : Dialect} (builtin : base ∈ Dialect.all) : base.Legible := by
  simp only [Dialect.all, List.mem_cons, List.not_mem_nil, or_false] at builtin
  rcases builtin with rfl | rfl
  · exact ⟨by decide, by rintro f ⟨⟩, by decide, by decide⟩
  · exact ⟨by decide, by rintro f ⟨⟩; decide, by decide, by decide⟩

theorem renamedLegible {base d : Dialect} {function : String} (legible : base.Legible)
    (named : base.withSimilarityFunction function = .ok d) : d.Legible := by
  unfold Dialect.withSimilarityFunction at named
  split at named
  · rename_i accepted
    cases named
    exact ⟨legible.operator, legible.containment, accepted, legible.constant⟩
  · cases named

section
variable {q : Quoting}

theorem blankRead {cs ts} (read : tokens q cs = some ts) : tokens q (' ' :: cs) = some ts :=
  tokensSeparated (tokensNil q) (.inl rfl) read

theorem blankBetweenRead {xs ts ys us} (first : tokens q xs = some ts) (second : tokens q ys = some us) :
    tokens q (xs ++ ' ' :: ys) = some (ts ++ us) := by
  have both := tokensSeparated first (.inl rfl) second
  rwa [show separatorTokens ' ' = [] from rfl, List.append_nil] at both

theorem inParenthesesRead {xs ts ys us} (first : tokens q xs = some ts) (second : tokens q ys = some us) :
    tokens q (xs ++ '(' :: ys ++ [')']) = some (ts ++ Layout.inParentheses us) := by
  have opened := tokensSeparated first (.inr (.inr (.inr (.inl rfl)))) second
  have closed := tokensSeparated opened (.inr (.inr (.inr (.inr rfl)))) (tokensNil q)
  simpa [Layout.inParentheses, separatorTokens, Scan.isSpace] using closed

theorem commaRead {xs ts ys us} (first : tokens q xs = some ts) (second : tokens q ys = some us) :
    tokens q (xs ++ ',' :: ' ' :: ys) = some (ts ++ .mark ',' :: us) := by
  have both := tokensSeparated first (.inr (.inr (.inl rfl))) (blankRead second)
  simpa [separatorTokens, Scan.isSpace] using both

theorem callRead {function first second : String} {a b : Token} (accepted : isFunctionName function)
    (firstRead : tokens q first.toList = some [a]) (secondRead : tokens q second.toList = some [b]) :
    tokens q (function ++ "(" ++ first ++ ", " ++ second ++ ")").toList =
      some (Layout.call function a b) := by
  have inner := commaRead firstRead secondRead
  have whole := inParenthesesRead (functionRead q accepted) inner
  simpa [Layout.call] using whole

theorem logicRead (logic : Logic) : tokens q logic.word.toList = some [.word logic.word] := by
  have isName : isWord startsName continuesName logic.word.toList := by cases logic <;> decide
  simpa using wordRead q isName

theorem intercalateRead (logic : Logic) {members : List String} {parts : List (List Token)}
    (read : List.Forall₂ (fun s ts => tokens q s.toList = some ts) members parts) :
    tokens q ((" " ++ logic.word ++ " ").intercalate members).toList =
      some ([Token.word logic.word].intercalate parts) := by
  rw [String.toList_intercalate]
  induction read with
  | nil => exact tokensNil q
  | @cons s ts members parts head tail ih =>
    cases tail with
    | nil => simpa using head
    | cons second rest =>
      have joined := blankBetweenRead head (blankBetweenRead (logicRead logic) ih)
      simpa using joined

theorem joinedRead (logic : Logic) {members : List String} {parts : List (List Token)}
    (read : List.Forall₂ (fun s ts => tokens q s.toList = some ts) members parts) :
    tokens q (Predicate.groupText logic members).toList = some (Layout.joined logic parts) := by
  have whole := inParenthesesRead (tokensNil q) (intercalateRead logic read)
  simpa [Predicate.groupText, Layout.joined] using whole

end

theorem likeRead {d : Dialect} (legible : d.Legible) (column pattern : String) :
    tokens d.quoting (Predicate.likeText d column pattern).toList =
      some (Layout.like d column pattern) := by
  have operator : tokens d.quoting d.containsOperator.toList = some [.word d.containsOperator] := by
    simpa using wordRead d.quoting legible.operator
  have clause := blankBetweenRead (blankBetweenRead (identifierRead d.quoting column) operator)
    (literalRead d.quoting (String.ofList (likePattern pattern.toList)))
  unfold Predicate.likeText Layout.like
  dsimp only
  split
  · simpa [Dialect.identifier, Dialect.literal] using clause
  · have isName : isWord startsName continuesName "ESCAPE".toList := by decide
    have word : tokens d.quoting "ESCAPE".toList = some [.word "ESCAPE"] := by
      simpa using wordRead d.quoting isName
    have whole := blankBetweenRead clause
      (blankBetweenRead word (literalRead d.quoting likeEscape.toString))
    simpa [Dialect.identifier, Dialect.literal] using whole

theorem containsRead {d : Dialect} (legible : d.Legible) (column pattern : String) :
    tokens d.quoting (Predicate.containsText d column pattern).toList =
      some (Layout.contains d column pattern) := by
  unfold Predicate.containsText Layout.contains
  cases named : d.function? with
  | none => exact likeRead legible column pattern
  | some function =>
    exact callRead (legible.containment function named) (identifierRead d.quoting column)
      (literalRead d.quoting pattern)

theorem similarRead {d : Dialect} (legible : d.Legible) (pattern column : String) {cutoff : Binary64}
    (share : Cutoff.IsShare cutoff) :
    tokens d.quoting (Predicate.similarText d pattern column cutoff).toList =
      some (Layout.similar d pattern column cutoff) := by
  obtain ⟨u, _, rfl⟩ := share
  have called := callRead legible.similarity (literalRead d.quoting pattern)
    (identifierRead d.quoting column)
  have compares : tokens d.quoting ['>', '='] = some [.atLeast] := by
    cases d.quoting <;> rfl
  have whole := blankBetweenRead called (blankBetweenRead compares (numeralRead d.quoting u))
  simpa [Predicate.similarText, Layout.similar, Dialect.literal, Dialect.identifier] using whole

theorem predicateRead {d : Dialect} (legible : d.Legible) {p : Predicate} (proper : p.Proper) :
    tokens d.quoting (p.text d).toList = some (p.layout d) := by
  induction proper with
  | @constant value =>
    rw [Predicate.text, Predicate.layout]
    simpa using wordRead d.quoting (legible.constant value)
  | @contains column pattern =>
    rw [Predicate.text, Predicate.layout]
    exact containsRead legible column pattern
  | @similar pattern column cutoff share =>
    rw [Predicate.text, Predicate.layout]
    exact similarRead legible pattern column share
  | @group logic members _ each ih =>
    rw [Predicate.text, Predicate.layout, Predicate.textsMap, Predicate.layoutsMap]
    exact joinedRead logic (Outcome.relatedImages ih)

end TypoSearch.Sql
