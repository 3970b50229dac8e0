import TypoSearch.Fault
import TypoSearch.Sql.Quoting

/-! Target engines: their quoting, the operator or function of containment, the similarity function
and the constant predicates. -/
namespace TypoSearch.Sql

structure Dialect where
  name : String
  containsOperator : String
  containsFunction : Option String
  similarityFunction : String
  quoting : Quoting
  trueLiteral : String := "TRUE"
  falseLiteral : String := "FALSE"
  deriving DecidableEq, Repr

def wordSimilarity : String := "word_similarity"

def foldedContainment : String := "contains_ci"

namespace Dialect

def postgres : Dialect :=
  { name := "postgres"
    containsOperator := "ILIKE"
    containsFunction := none
    similarityFunction := wordSimilarity
    quoting := .sparing }

def sqlite : Dialect :=
  { name := "sqlite"
    containsOperator := "LIKE"
    containsFunction := some foldedContainment
    similarityFunction := wordSimilarity
    quoting := .plain }

def all : List Dialect := [postgres, sqlite]

def names : List String := all.map name

def sortedNames : List String := names.mergeSort fun a b => a ≤ b

def ofName? (s : String) : Option Dialect := all.find? (·.name == s)

def ofValue (given : Value) : Except Fault Dialect :=
  match given.key? with
  | none => .error (.unhashable given.kindName)
  | some (.text s) => match ofName? s with
    | some d => .ok d
    | none => Fault.raise (.dialect given sortedNames)
  | some _ => Fault.raise (.dialect given sortedNames)

def withSimilarityFunction (d : Dialect) (function : String) : Except Fault Dialect :=
  if isFunctionName function then .ok { d with similarityFunction := function }
  else .error (.functionName function)

def withSimilarityValue (d : Dialect) (function : Value) : Except Fault Dialect :=
  match function with
  | .text s => d.withSimilarityFunction s
  | v => .error (.notText v.kindName)

def constant (d : Dialect) (value : Bool) : String := if value then d.trueLiteral else d.falseLiteral

def function? (d : Dialect) : Option String := d.containsFunction.filter (!·.isEmpty)

def identifier (d : Dialect) (s : String) : String := d.quoting.identifier s

def literal (d : Dialect) (s : String) : String := d.quoting.literal s

end Dialect
end TypoSearch.Sql
