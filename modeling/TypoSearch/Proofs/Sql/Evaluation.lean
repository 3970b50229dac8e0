import TypoSearch.Proofs.Matching
import TypoSearch.Proofs.Sql.Expression

/-! The value of a condition on a row, in three-valued logic. The registered functions and the comparison
know nothing of an absent operand; AND and OR may know the whole without one of its sides. -/
namespace TypoSearch.Sql
open Number (Binary64)
open Similarity (Scorer)

inductive Datum where
  | null
  | truth (b : Bool)
  | number (x : Binary64)
  | text (s : String)
  deriving DecidableEq, Repr

namespace Datum

def ofText : Option String → Datum
  | none => null
  | some s => text s

def ofTruth : Option Bool → Datum
  | none => null
  | some b => truth b

def truth? : Datum → Option (Option Bool)
  | null => some none
  | truth b => some (some b)
  | _ => none

end Datum

namespace Expression

def joinTruth : Logic → Option Bool → Option Bool → Option Bool
  | .and, some false, _ => some false
  | .and, _, some false => some false
  | .and, some true, some true => some true
  | .and, _, _ => none
  | .or, some true, _ => some true
  | .or, _, some true => some true
  | .or, some false, some false => some false
  | .or, _, _ => none

def strict (f : String → String → Datum) : Datum → Datum → Option Datum
  | .text a, .text b => some (f a b)
  | .null, .text _ => some .null
  | .text _, .null => some .null
  | .null, .null => some .null
  | _, _ => none

def registered (scorer : Scorer Binary64) (function : String) : Datum → Datum → Option Datum :=
  if function = wordSimilarity then strict fun pattern target => .number (scorer pattern target)
  else if function = foldedContainment then
    strict fun target pattern => .truth (Text.containsIgnoringCase target pattern)
  else fun _ _ => none

def compare : Datum → Datum → Option Datum
  | .number x, .number y => some (.truth (Scale.atLeast x y))
  | .null, .number _ => some .null
  | .number _, .null => some .null
  | .null, .null => some .null
  | _, _ => none

def eval (scorer : Scorer Binary64) (reading : String → Binary64) (row : String → Option String) :
    Expression → Option Datum
  | constant value => some (.truth value)
  | column name => some (.ofText (row name))
  | literal s => some (.text s)
  | numeral s => some (.number (reading s))
  | call function first second => do
    registered scorer function (← eval scorer reading row first) (← eval scorer reading row second)
  | atLeast left right => do compare (← eval scorer reading row left) (← eval scorer reading row right)
  | join logic left right => do
    let left ← (← eval scorer reading row left).truth?
    let right ← (← eval scorer reading row right).truth?
    return .ofTruth (joinTruth logic left right)

theorem foldJoined (l : Logic) (v : Option Bool) (vs : List (Option Bool)) :
    vs.foldl (joinTruth l) v = Predicate.joined l (v :: vs) := by
  induction vs generalizing v with
  | nil => cases l <;> rcases v with _ | _ | _ <;> rfl
  | cons w vs ih =>
    have merge : Predicate.joined l (v :: w :: vs) = Predicate.joined l (joinTruth l v w :: vs) := by
      unfold Predicate.joined
      cases l <;> rcases v with _ | _ | _ <;> rcases w with _ | _ | _ <;>
        simp [joinTruth, Logic.neutral]
    rw [List.foldl_cons, ih, merge]

section
variable {scorer : Scorer Binary64} {reading : String → Binary64} {row : String → Option String}

theorem evalJoin {l : Logic} {left right : Expression} {v w : Option Bool}
    (first : left.eval scorer reading row = some (.ofTruth v))
    (second : right.eval scorer reading row = some (.ofTruth w)) :
    (join l left right).eval scorer reading row = some (.ofTruth (joinTruth l v w)) := by
  have truths (u : Option Bool) : (Datum.ofTruth u).truth? = some u := by cases u <;> rfl
  simp [eval, first, second, truths]

theorem evalFold {l : Logic} {e : Expression} {v : Option Bool} {es : List Expression}
    {vs : List (Option Bool)} (head : e.eval scorer reading row = some (.ofTruth v))
    (tail : List.Forall₂ (fun e v => e.eval scorer reading row = some (.ofTruth v)) es vs) :
    (es.foldl (.join l) e).eval scorer reading row = some (.ofTruth (vs.foldl (joinTruth l) v)) := by
  induction tail generalizing e v with
  | nil => exact head
  | cons next rest ih => exact ih (evalJoin head next)

end
end Expression

namespace Predicate
variable {reading : String → Binary64} (scorer : Scorer Binary64) (row : String → Option String)

theorem evalsMap (b : Binding) (ps : List Predicate) : evals scorer b ps = ps.map (eval scorer b) := by
  induction ps with
  | nil => rw [evals, List.map_nil]
  | cons p ps ih => rw [evals, ih, List.map_cons]

theorem expressionEval {p : Predicate} (proper : p.Proper) :
    p.expression.eval scorer reading row =
      some (.ofTruth (p.eval scorer ⟨row, some, fun x => reading x.plainText⟩)) := by
  induction proper with
  | constant => rfl
  | @contains column pattern =>
    cases found : row column <;>
      simp [expression, eval, Expression.eval, Expression.registered, foldedContainment, wordSimilarity,
        found, Datum.ofText, Datum.ofTruth, Expression.strict]
  | @similar pattern column cutoff _ =>
    cases found : row column <;>
      simp [expression, eval, Expression.eval, Expression.registered, found, Datum.ofText,
        Datum.ofTruth, Expression.strict, Expression.compare]
  | @group logic members some _ ih =>
    rw [expression, eval, expressionsMap, evalsMap]
    cases members with
    | nil => exact absurd rfl some
    | cons p ps =>
      have tail : List.Forall₂ (fun e v => e.eval scorer reading row = Option.some (.ofTruth v))
          (ps.map expression) (ps.map (eval scorer ⟨row, Option.some, fun x => reading x.plainText⟩)) :=
        Outcome.relatedImages fun q member => ih q (List.mem_cons_of_mem p member)
      rw [List.map_cons, List.map_cons, ← Expression.foldJoined]
      exact Expression.evalFold (ih p List.mem_cons_self) tail

inductive Alike (b c : Binding) : Predicate → Prop
  | constant {value} (same : b.constant value = c.constant value) : Alike b c (constant value)
  | contains {column pattern} (same : b.column column = c.column column) : Alike b c (contains column pattern)
  | similar {pattern column cutoff} (same : b.column column = c.column column)
      (number : b.number cutoff = c.number cutoff) : Alike b c (similar pattern column cutoff)
  | group {logic members} (some : members ≠ []) (each : ∀ p ∈ members, Alike b c p) :
      Alike b c (group logic members)

theorem evalAlike {b c : Binding} {p : Predicate} (alike : p.Alike b c) : p.eval scorer b = p.eval scorer c := by
  induction alike with
  | constant same => rw [eval, eval, same]
  | contains same => rw [eval, eval, same]
  | similar same number => rw [eval, eval, same, number]
  | group _ _ ih => rw [eval, eval, evalsMap, evalsMap, List.map_congr_left ih]

end Predicate
end TypoSearch.Sql
