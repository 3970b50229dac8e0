import TypoSearch.Plan
import TypoSearch.Similarity.Measure
import TypoSearch.Text.Containment
import TypoSearch.Number.Numeral
import TypoSearch.Sql.Dialect

/-! Predicates on a row. A plan becomes a predicate with the same structure; a predicate has a text in
each dialect and a value on a row in three-valued logic, where an unknown operand leaves a check
unknown. An empty set of terms or columns becomes a constant, which no absent value disturbs. -/
namespace TypoSearch.Sql
open Number (Binary64)
open Similarity (Scorer)

inductive Predicate where
  | constant (value : Bool)
  | contains (column pattern : String)
  | similar (pattern column : String) (cutoff : Binary64)
  | group (logic : Logic) (members : List Predicate)
  deriving Repr

/-- What the parts of a predicate stand for on a row. An engine may take the word of a constant for a name, and
may read the numeral of a cutoff as another number. -/
structure Binding where
  column : String → Option String
  constant : Bool → Option Bool
  number : Binary64 → Binary64

def Binding.plain (row : String → Option String) : Binding := ⟨row, some, id⟩

namespace Predicate

def ofCheck (column : String) (check : TermCheck String Binary64) : Predicate :=
  match check.regime with
  | .contains => contains column check.pattern
  | .similarity cutoff => similar check.pattern column cutoff

def ofTermSet (plan : TermSet String Binary64) (column : String) : Predicate :=
  if plan.checks.isEmpty then constant plan.emptyResult
  else group plan.logic (plan.checks.map (ofCheck column))

def ofColumnSet (plan : ColumnSet String Binary64) (columns : List String) : Predicate :=
  if columns.isEmpty then constant plan.emptyResult
  else group plan.logic (columns.map (ofTermSet plan.termSet))

def likeText (d : Dialect) (column pattern : String) : String :=
  let escaped := escapeLike pattern.toList
  let clause := d.identifier column ++ " " ++ d.containsOperator ++ " " ++
    d.literal (String.ofList (likePattern pattern.toList))
  if escaped = pattern.toList then clause
  else clause ++ " ESCAPE " ++ d.literal likeEscape.toString

def containsText (d : Dialect) (column pattern : String) : String :=
  match d.function? with
  | some function => function ++ "(" ++ d.identifier column ++ ", " ++ d.literal pattern ++ ")"
  | none => likeText d column pattern

def similarText (d : Dialect) (pattern column : String) (cutoff : Binary64) : String :=
  d.similarityFunction ++ "(" ++ d.literal pattern ++ ", " ++ d.identifier column ++ ") >= " ++
    cutoff.plainText

def groupText (logic : Logic) (members : List String) : String :=
  "(" ++ (" " ++ logic.word ++ " ").intercalate members ++ ")"

mutual

def text (d : Dialect) : Predicate → String
  | constant value => d.constant value
  | contains column pattern => containsText d column pattern
  | similar pattern column cutoff => similarText d pattern column cutoff
  | group logic members => groupText logic (texts d members)

def texts (d : Dialect) : List Predicate → List String
  | [] => []
  | p :: ps => text d p :: texts d ps

end

def joined (logic : Logic) (values : List (Option Bool)) : Option Bool :=
  if values.contains (some !logic.neutral) then some !logic.neutral
  else if values.contains none then none
  else some logic.neutral

mutual

def eval (scorer : Scorer Binary64) (b : Binding) : Predicate → Option Bool
  | constant value => b.constant value
  | contains column pattern => (b.column column).map fun target => Text.containsIgnoringCase target pattern
  | similar pattern column cutoff =>
    (b.column column).map fun target => Scale.atLeast (scorer pattern target) (b.number cutoff)
  | group logic members => joined logic (evals scorer b members)

def evals (scorer : Scorer Binary64) (b : Binding) : List Predicate → List (Option Bool)
  | [] => []
  | p :: ps => eval scorer b p :: evals scorer b ps

end

def selects (scorer : Scorer Binary64) (b : Binding) (p : Predicate) : Bool := p.eval scorer b == some true

def joinedHeight : List Nat → Nat
  | [] => 0
  | h :: hs => hs.foldl (fun before h => max before h + 1) h

mutual

/-- The height of the tree that an engine makes of the text: a name or a literal, a call on them, a
comparison of the call, and a join of two predicates each take one level. -/
def height : Predicate → Nat
  | constant _ => 1
  | contains _ _ => 2
  | similar _ _ _ => 3
  | group _ members => joinedHeight (heights members)

def heights : List Predicate → List Nat
  | [] => []
  | p :: ps => height p :: heights ps

end

mutual

def usesSimilarity : Predicate → Bool
  | constant _ => false
  | contains _ _ => false
  | similar _ _ _ => true
  | group _ members => anyUsesSimilarity members

def anyUsesSimilarity : List Predicate → Bool
  | [] => false
  | p :: ps => usesSimilarity p || anyUsesSimilarity ps

end

end Predicate
end TypoSearch.Sql
