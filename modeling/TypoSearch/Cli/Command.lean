import TypoSearch.Cli.Arguments
import TypoSearch.Logic
import TypoSearch.Number.Reading
import TypoSearch.Sql.Dialect

/-! The commands and their arguments. What a command line leaves open is left to the settings. -/
namespace TypoSearch.Cli

structure Overrides where
  typos : Option Nat := none
  termLogic : Option Logic := none
  columnLogic : Option Logic := none
  deriving DecidableEq, Repr

inductive Command where
  | threshold (length typos : Nat)
  | decide (query : String) (values : List String) (overrides : Overrides)
  | clause (query : String) (columns : List String) (dialect : Option String) (overrides : Overrides)
  | search (query table : String) (columns : List String) (overrides : Overrides)
  deriving DecidableEq, Repr

namespace Command

def name : Command → String
  | threshold .. => "threshold"
  | decide .. => "match"
  | clause .. => "clause"
  | search .. => "search"

def title : Command → String
  | threshold .. => "Threshold"
  | decide .. => "Match"
  | clause .. => "Clause"
  | search .. => "Search"

def names : List String := ["threshold", "match", "clause", "search"]

def count (s : String) : Except Stop Nat :=
  match Number.readInt? s with
  | some (.ofNat n) => .ok n
  | _ => .error .usage

def logic (s : String) : Except Stop Logic :=
  match Logic.ofWord? (String.ofList (s.toList.map Char.toUpper)) with
  | some l => .ok l
  | none => .error .usage

def optional {α : Type} (given : Option String) (read : String → Except Stop α) : Except Stop (Option α) :=
  match given with
  | some s => do return some (← read s)
  | none => .ok none

def required (values : List String) : Except Stop (List String) :=
  if values.isEmpty then .error .usage else .ok values

def overrideOptions : List OptionName := [⟨"--typos", none⟩, ⟨"--term-logic", none⟩, ⟨"--column-logic", none⟩]

def overrides (g : Given) : Except Stop Overrides := do
  let typos ← optional (g.last? "--typos") count
  let termLogic ← optional (g.last? "--term-logic") logic
  let columnLogic ← optional (g.last? "--column-logic") logic
  return ⟨typos, termLogic, columnLogic⟩

def single (arguments : List String) : Except Stop String :=
  match arguments with
  | [a] => .ok a
  | _ => .error .usage

def readThreshold (words : List String) : Except Stop Command := do
  let g ← read [] true words
  match g.arguments with
  | [length, typos] => return threshold (← count length) (← count typos)
  | _ => .error .usage

def columnOption : OptionName := ⟨"--column", some 'c'⟩

def readDecide (words : List String) : Except Stop Command := do
  let g ← read (⟨"--value", some 'v'⟩ :: overrideOptions) true words
  let query ← single g.arguments
  let values ← required (g.all "--value")
  return decide query values (← overrides g)

def dialectName (s : String) : Except Stop String :=
  if Sql.Dialect.names.contains s then .ok s else .error .usage

def readClause (words : List String) : Except Stop Command := do
  let g ← read (columnOption :: ⟨"--dialect", none⟩ :: overrideOptions) true words
  let query ← single g.arguments
  let columns ← required (g.all columnOption.long)
  let dialect ← optional (g.last? "--dialect") dialectName
  return clause query columns dialect (← overrides g)

def readSearch (words : List String) : Except Stop Command := do
  let g ← read (columnOption :: ⟨"--table", none⟩ :: overrideOptions) true words
  let query ← single g.arguments
  let columns ← required (g.all columnOption.long)
  match g.last? "--table" with
  | some table => return search query table columns (← overrides g)
  | none => .error .usage

def ofWords (name : String) (words : List String) : Except Stop Command :=
  match name with
  | "threshold" => readThreshold words
  | "match" => readDecide words
  | "clause" => readClause words
  | "search" => readSearch words
  | _ => .error .usage

end Command
end TypoSearch.Cli
