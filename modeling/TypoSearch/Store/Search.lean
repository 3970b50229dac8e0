import TypoSearch.Report
import TypoSearch.Sql.Clause
import TypoSearch.Store.Database

/-! Searching a table: the names are checked against the database, the query is compiled, and the rows
on which the predicate is true are returned whole and in order. -/
namespace TypoSearch.Store
open Number (Binary64)
open Similarity (Scorer Measure)
open Sql

structure Request where
  table : Value
  columns : Value
  query : Value
  budget : Value := .int 1
  termLogic : Value := .text "OR"
  columnLogic : Value := .text "AND"
  limit : Option Int := none

structure Statement where
  table : String
  known : List String
  clause : Clause.Compiled
  limit : Option Nat

namespace Statement

def text (s : Statement) : String :=
  "SELECT * FROM " ++ Sql.Dialect.sqlite.identifier s.table ++ " WHERE " ++ s.clause.text ++
    (if s.limit.isSome then " LIMIT ?" else "")

end Statement

namespace Database

def knownColumns (db : Database) (table : Value) : Except Fault (String × List String) :=
  match table with
  | .text name => match db.columns? name with
    | some columns => .ok (name, columns)
    | none => Fault.raise (.unknownTable table)
  | v => Fault.raise (.unknownTable v)

def isKnown (known : List String) (column : Value) : Bool :=
  match column with
  | .text c => known.contains c
  | _ => false

def checkColumns (table : String) (known : List String) (columns : List Value) : Except Fault Unit :=
  match columns.filter fun c => !isKnown known c with
  | [] => .ok ()
  | unknown => Fault.raise (.unknownColumns table unknown)

def checkLimit (limit : Option Int) : Except Fault (Option Nat) :=
  match limit with
  | none => .ok none
  | some n => if n ≤ 0 then .error .limit else .ok (some n.toNat)

def prepare (db : Database) (r : Request) : Except Fault Statement := do
  let (table, known) ← db.knownColumns r.table
  let columns ← r.columns.members
  checkColumns table known columns
  let limit ← checkLimit r.limit
  let clause ← Clause.ofColumnsQuery .sqlite (.ok columns) r.query r.budget r.termLogic r.columnLogic
  return ⟨table, known, clause, limit⟩

def textAt (known : List String) (row : List Cell) (column : String) : Option String :=
  ((known.zip row).lookup column).bind Cell.text?

/-- The truth of the bare word of a constant, which names a column where there is one of that name. -/
def constantAt (known : List String) (row : List Cell) (value : Bool) : Option Bool :=
  match (known.zip row).find? fun p => sameName (Dialect.sqlite.constant value) p.1 with
  | some p => p.2.truth?
  | none => some value

def limited {α : Type} (limit : Option Nat) (xs : List α) : List α :=
  match limit with
  | some n => xs.take n
  | none => xs

end Database

structure Session where
  database : Database
  measure : Measure
  functionName : String := Sql.wordSimilarity
  isOpen : Bool := true
  scorer : Scorer Binary64 := measure.scorer
  /-- Engines differ in the numbers they make of long numerals. -/
  numeral : String → Binary64 := Number.numeral

namespace Session

def ensureOpen (s : Session) : Except Fault Unit := if s.isOpen then .ok () else .error .closed

def highestTree : Nat := 1000

def longestStatement : Nat := 1000000000

/-- The engine runs a statement of limited length and height without null characters that calls registered
functions, under a limit that is an integer of its own. -/
def accepts (s : Session) (t : Statement) : Except Fault Unit :=
  if longestStatement < t.text.utf8ByteSize then .error .statementLength
  else if t.text.toList.contains '\x00' then .error .nullCharacter
  else if highestTree < t.clause.predicate.height then .error (.tooDeep highestTree)
  else if t.clause.predicate.usesSimilarity && !Database.sameName s.functionName Sql.wordSimilarity then
    .error (.noFunction Sql.wordSimilarity)
  else if t.limit.any fun n : Nat => !fitsInteger n then .error .integerRange
  else .ok ()

def prepare (s : Session) (r : Request) : Except Fault Statement := do
  s.ensureOpen
  s.database.prepare r

def binding (s : Session) (known : List String) (row : List Cell) : Binding where
  column := Database.textAt known row
  constant := Database.constantAt known row
  number x := s.numeral x.plainText

def select (s : Session) (t : Statement) : List (List Cell) :=
  Database.limited t.limit (((s.database.rows? t.table).getD []).filter fun row =>
    t.clause.predicate.selects s.scorer (s.binding t.known row))

def run (s : Session) (t : Statement) : Except Fault (List (List Cell)) := do
  s.accepts t
  return s.select t

def columns (s : Session) (table : Value) : Except Fault (List String) := do
  s.ensureOpen
  return (← s.database.knownColumns table).2

def apply (s : Session) (seed : Seed) : Except Fault Unit × Session :=
  if s.isOpen then
    let (result, database) := seed.apply.run s.database
    (result, { s with database })
  else (.error .closed, s)

def close (s : Session) : Session := { s with isOpen := false }

def similarity (s : Session) (pattern target : Cell) : Except Fault (Option Binary64) := do
  s.ensureOpen
  pattern.check
  target.check
  return pattern.text?.bind fun p => target.text?.map fun t => s.scorer p t

def contains (s : Session) (target pattern : Cell) : Except Fault (Option Bool) := do
  s.ensureOpen
  target.check
  pattern.check
  return target.text?.bind fun t => pattern.text?.map fun p => Text.containsIgnoringCase t p

end Session

def reportRow (columns : List String) (row : List Cell) : Row :=
  Entries.ofPairs ((columns.zip row).map fun p => (Key.text p.1, p.2.value))

end TypoSearch.Store
