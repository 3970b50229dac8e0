import TypoSearch.Plan
import TypoSearch.Text.Containment
import TypoSearch.Similarity.Measure

/-! Evaluation of a plan on values. It runs in any monad that can answer the two questions of a check,
so one definition serves plain answers, answers with a record of what was asked, and values that
turn out not to be texts. An absent value never matches, even where there is nothing to check. -/
namespace TypoSearch
open Similarity (Scorer)

inductive Event (π τ ν : Type) where
  | asked (pattern : π) (target : τ)
  | contained (pattern : π) (matched : Bool)
  | scored (pattern : π) (score cutoff : ν) (matched : Bool)
  deriving DecidableEq, Repr

def Event.asked? {π τ ν : Type} : Event π τ ν → Option (π × τ)
  | asked pattern target => some (pattern, target)
  | _ => none

structure Comparison (m : Type → Type) (π τ ν : Type) where
  contains : (target : τ) → (pattern : π) → m Bool
  score : (pattern : π) → (target : τ) → m ν
  note : Event π τ ν → m Unit

namespace Matching
variable {m : Type → Type} [Monad m] {π τ ν : Type} [Scale ν]

def term (c : Comparison m π τ ν) (check : TermCheck π ν) : Option τ → m Bool
  | none => pure false
  | some target =>
    match check.regime with
    | .contains => do
      let matched ← c.contains target check.pattern
      c.note (.contained check.pattern matched)
      return matched
    | .similarity cutoff => do
      let score ← c.score check.pattern target
      let matched := Scale.atLeast score cutoff
      c.note (.scored check.pattern score cutoff matched)
      return matched

def termSet (c : Comparison m π τ ν) (plan : TermSet π ν) : Option τ → m Bool
  | none => pure false
  | some target => plan.logic.decide (fun check => term c check (some target)) plan.checks

def columnSet (c : Comparison m π τ ν) (plan : ColumnSet π ν) (targets : List (Option τ)) : m Bool :=
  plan.logic.decide (termSet c plan.termSet) targets

def silent (scorer : Scorer ν) : Comparison Id String String ν where
  contains target pattern := Text.containsIgnoringCase target pattern
  score pattern target := scorer pattern target
  note _ := ()

def matchesTerm (scorer : Scorer ν) (check : TermCheck String ν) (target : Option String) : Bool :=
  Id.run (term (silent scorer) check target)

def matchesTerms (scorer : Scorer ν) (plan : TermSet String ν) (target : Option String) : Bool :=
  Id.run (termSet (silent scorer) plan target)

def matchesColumns (scorer : Scorer ν) (plan : ColumnSet String ν) (targets : List (Option String)) : Bool :=
  Id.run (columnSet (silent scorer) plan targets)

abbrev Recorded (π τ ν : Type) := ExceptT Fault (StateM (List (Event π τ ν)))

def Recorded.run {π τ ν α : Type} (x : Recorded π τ ν α) : Except Fault α × List (Event π τ ν) :=
  Id.run (StateT.run (ExceptT.run x) [])

def record {π τ ν : Type} (e : Event π τ ν) : Recorded π τ ν Unit := modify fun es => es ++ [e]

def settled [MonadExceptOf Fault m] {α : Type} (x : Except Fault α) : m α := match x with
  | .ok a => pure a
  | .error e => throw e

def asking {π τ ν : Type} (score : π → τ → Except Fault ν) (pattern : π) (target : τ) : Recorded π τ ν ν := do
  record (.asked pattern target)
  settled (score pattern target)

def recorded (scorer : Scorer ν) : Comparison (Recorded String String ν) String String ν where
  contains target pattern := pure (Text.containsIgnoringCase target pattern)
  score := asking fun pattern target => .ok (scorer pattern target)
  note := record

/-! ## From arguments to an answer
All arguments are settled before any target is looked at. -/

variable [MonadExceptOf Fault m] [Pattern π]

def matchTerm (c : Comparison m π τ ν) (target : Option τ) (pattern : π) (budget : Value) : m Bool := do
  let check ← settled (Plan.termOf budget pattern)
  term c check target

def matchTerms (c : Comparison m π τ ν) (target : Option τ) (patterns : Except Fault (List π))
    (budget termLogic : Value) : m Bool := do
  let plan ← settled (Plan.termsOf (Policy.ofValues "match_logic" termLogic budget) patterns)
  termSet c plan target

def queryPatterns (query : Value) : Except Fault (List π) := do
  let ts ← Query.termsOf query
  return ts.map Pattern.ofText

def matchQuery (c : Comparison m π τ ν) (target : Option τ) (query budget termLogic : Value) : m Bool := do
  let patterns ← settled (queryPatterns query)
  matchTerms c target (.ok patterns) budget termLogic

def matchColumns (c : Comparison m π τ ν) (patterns : Except Fault (List π))
    (budget termLogic columnLogic : Value) (targets : Except Fault (List (Option τ))) : m Bool := do
  let plan ← settled (Plan.columnsOf (ColumnPolicy.ofValues columnLogic termLogic budget) patterns)
  let targets ← settled targets
  columnSet c plan targets

def matchColumnsQuery (c : Comparison m π τ ν) (query budget termLogic columnLogic : Value)
    (targets : Except Fault (List (Option τ))) : m Bool := do
  let patterns ← settled (queryPatterns query)
  matchColumns c (.ok patterns) budget termLogic columnLogic targets

end Matching

/-! ## Values that may not be texts -/

namespace Value

def lowered (v : Value) : Except Fault String :=
  match v with
  | text s => .ok (Text.lower s)
  | _ => .error (.noMethod v.kindName "lower")

def toOption : Value → Option Value
  | null => none
  | v => some v

def containsIgnoringCase (target pattern : Value) : Except Fault Bool := do
  let pattern ← pattern.lowered
  let target ← target.lowered
  return Text.occursIn pattern.toList target.toList

def contains (target pattern : Value) : Except Fault Bool :=
  match target.toOption with
  | none => .ok false
  | some target => containsIgnoringCase target pattern

end Value

namespace Similarity
variable {ν : Type} [Scale ν]

def Measure.scoreValues (measure : Measure) (pattern target : Value) : Except Fault ν :=
  if pattern.isVoid || target.isVoid then .ok Scale.zero
  else match pattern, target with
  | .text p, .text t => .ok (measure.scorer p t)
  | .text _, t => .error (.noMethod t.kindName "lower")
  | p, _ => .error (.noMethod p.kindName "lower")

structure ScoreEntry (ν : Type) where
  pattern : Key
  target : Key
  score : ν

def listedScore {ν : Type} (listed : List (ScoreEntry ν)) (other : ν) (pattern target : Value) :
    Except Fault ν :=
  match pattern.key?, target.key? with
  | none, _ => .error (.unhashable pattern.kindName)
  | _, none => .error (.unhashable target.kindName)
  | some p, some t =>
    match listed.reverse.find? fun e => e.pattern.same p && e.target.same t with
    | some e => .ok e.score
    | none => .ok other

end Similarity

namespace Matching

def loose {ν : Type} (score : Value → Value → Except Fault ν) :
    Comparison (Recorded Value Value ν) Value Value ν where
  contains target pattern := settled (target.containsIgnoringCase pattern)
  score := asking score
  note := record

end Matching
end TypoSearch
