import TypoSearch.Matching
import TypoSearch.Sql.Predicate

/-! Clauses: the text of a search as a predicate, to be embedded in a statement. All arguments are
settled as for evaluation; a column name is looked at only where a term is written. -/
namespace TypoSearch.Sql
open Number (Binary64)

namespace Clause

def columnName (given : Value) : Except Fault String :=
  match given with
  | .text s => if s.isEmpty then Fault.raise (.columnName given) else .ok s
  | _ => Fault.raise (.columnName given)

variable {π : Type} [Pattern π]

def check (d : Dialect) (c : TermCheck π Binary64) : Except Fault (TermCheck String Binary64) := do
  let escaped := c.regime == .contains && d.function?.isNone
  return ⟨← Pattern.written escaped c.pattern, c.regime⟩

def termPredicate (d : Dialect) (c : TermCheck π Binary64) (column : Value) : Except Fault Predicate := do
  let column ← columnName column
  let c ← check d c
  return .ofCheck column c

def setPredicate (d : Dialect) (plan : TermSet π Binary64) (column : Value) : Except Fault Predicate := do
  if plan.checks.isEmpty then return .constant plan.emptyResult
  return .group plan.logic (← plan.checks.mapM fun c => termPredicate d c column)

def columnsPredicate (d : Dialect) (plan : ColumnSet π Binary64) (columns : List Value) :
    Except Fault Predicate := do
  if columns.isEmpty then return .constant plan.emptyResult
  return .group plan.logic (← columns.mapM (setPredicate d plan.termSet))

def ofTerm (d : Dialect) (column : Value) (pattern : π) (budget : Value) : Except Fault String := do
  let c ← Plan.termOf budget pattern
  return (← termPredicate d c column).text d

def ofTerms (d : Dialect) (column : Value) (patterns : Except Fault (List π)) (budget logic : Value) :
    Except Fault String := do
  let plan ← Plan.termsOf (Policy.ofValues "match_logic" logic budget) patterns
  return (← setPredicate d plan column).text d

def ofQuery (d : Dialect) (column query budget logic : Value) : Except Fault String := do
  let patterns ← Query.termsOf query
  ofTerms d column (.ok patterns) budget logic

structure Compiled where
  predicate : Predicate
  text : String
  terms : Nat
  columns : Nat
  deriving Repr

def ofColumns (d : Dialect) (columns : Except Fault (List Value)) (patterns : Except Fault (List π))
    (budget termLogic columnLogic : Value) : Except Fault Compiled := do
  let plan ← Plan.columnsOf (ColumnPolicy.ofValues columnLogic termLogic budget) patterns
  let columns ← columns
  let predicate ← columnsPredicate d plan columns
  return ⟨predicate, predicate.text d, plan.termSet.checks.length, columns.length⟩

def ofColumnsQuery (d : Dialect) (columns : Except Fault (List Value))
    (query budget termLogic columnLogic : Value) : Except Fault Compiled := do
  let patterns ← Query.termsOf query
  ofColumns d columns (.ok patterns) budget termLogic columnLogic

end Clause
end TypoSearch.Sql
