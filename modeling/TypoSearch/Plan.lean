import TypoSearch.Cutoff
import TypoSearch.Logic
import TypoSearch.Query

/-! Plans: how each term of a query is compared, before any value is seen. Evaluation and clause
texts read the same plan. A short term, and every term under a budget of zero, asks for
containment; all others ask for a least similarity. -/
namespace TypoSearch

inductive Regime (ν : Type) where
  | contains
  | similarity (cutoff : ν)
  deriving DecidableEq, Repr

structure TermCheck (π ν : Type) where
  pattern : π
  regime : Regime ν
  deriving DecidableEq, Repr

structure TermSet (π ν : Type) where
  logic : Logic
  checks : List (TermCheck π ν)
  deriving DecidableEq, Repr

structure ColumnSet (π ν : Type) where
  logic : Logic
  termSet : TermSet π ν
  deriving DecidableEq, Repr

def TermSet.emptyResult {π ν : Type} (s : TermSet π ν) : Bool := s.logic.neutral

def ColumnSet.emptyResult {π ν : Type} (s : ColumnSet π ν) : Bool := s.logic.neutral

/-- Patterns have a size, or turn out to have none; every text is one. Only a text can be written into
a clause, where the escaping of a containment pattern asks first. -/
class Pattern (π : Type) where
  size : π → Except Fault Nat
  ofText : String → π
  written : (escaped : Bool) → π → Except Fault String

instance : Pattern String := ⟨fun s => .ok s.length, id, fun _ s => .ok s⟩

def Value.written (escaped : Bool) (v : Value) : Except Fault String :=
  match v with
  | text s => .ok s
  | v => .error (if escaped then .notText v.kindName else .noMethod v.kindName "replace")

instance : Pattern Value := ⟨Value.size, Value.text, Value.written⟩

structure Policy where
  termLogic : Logic
  typos : Nat
  deriving DecidableEq, Repr

structure ColumnPolicy where
  columnLogic : Logic
  terms : Policy
  deriving DecidableEq, Repr

def Policy.ofValues (argument : String) (termLogic budget : Value) : Except Fault Policy := do
  let termLogic ← Logic.ofValue argument termLogic
  let typos ← Budget.ofValue budget
  return ⟨termLogic, typos⟩

def ColumnPolicy.ofValues (columnLogic termLogic budget : Value) : Except Fault ColumnPolicy := do
  let columnLogic ← Logic.ofValue "column_logic" columnLogic
  let terms ← Policy.ofValues "term_logic" termLogic budget
  return ⟨columnLogic, terms⟩

namespace Plan
variable {π ν : Type} [Pattern π] [Scale ν]

def term (typos : Nat) (pattern : π) : Except Fault (TermCheck π ν) := do
  let length ← Pattern.size pattern
  if length < trigramLength || typos = 0 then return ⟨pattern, .contains⟩
  else
    let cutoff ← Cutoff.ofLength length (typos + extraTypos length)
    return ⟨pattern, .similarity cutoff⟩

def terms (policy : Policy) (patterns : List π) : Except Fault (TermSet π ν) := do
  let checks ← patterns.mapM (term policy.typos)
  return ⟨policy.termLogic, checks⟩

def columns (policy : ColumnPolicy) (patterns : List π) : Except Fault (ColumnSet π ν) := do
  let termSet ← terms policy.terms patterns
  return ⟨policy.columnLogic, termSet⟩

def termsOf (policy : Except Fault Policy) (patterns : Except Fault (List π)) :
    Except Fault (TermSet π ν) := do terms (← policy) (← patterns)

def columnsOf (policy : Except Fault ColumnPolicy) (patterns : Except Fault (List π)) :
    Except Fault (ColumnSet π ν) := do columns (← policy) (← patterns)

def termOf (budget : Value) (pattern : π) : Except Fault (TermCheck π ν) := do
  term (← Budget.ofValue budget) pattern

end Plan
end TypoSearch
