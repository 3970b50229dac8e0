import TypoSearch.Sql.Quoting
import TypoSearch.Store.Cell

/-! Databases as named tables with columns and rows, and views that show some columns of a table. Names
are told apart exactly where they are looked up, and by their letters alone where they are made. -/
namespace TypoSearch.Store

structure Table where
  name : String
  columns : List String
  rows : List (List Cell)
  deriving DecidableEq, Repr

structure View where
  name : String
  columns : List String
  source : String
  deriving DecidableEq, Repr

structure Database where
  tables : List Table
  views : List View
  deriving DecidableEq, Repr

namespace Database

def empty : Database := ⟨[], []⟩

def foldName (s : String) : String := String.ofList (s.toList.map Char.toLower)

def sameName (a b : String) : Bool := foldName a == foldName b

def kind? (db : Database) (name : String) : Option String :=
  if db.tables.any (sameName name ·.name) then some "table"
  else if db.views.any (sameName name ·.name) then some "view"
  else none

def reservedStart : String := "sqlite_"

def isReserved (name : String) : Bool := reservedStart.toList.isPrefixOf (foldName name).toList

def checkNew (db : Database) (name : String) : Except Fault Unit :=
  if isReserved name then .error (.reservedName name)
  else match db.kind? name with
  | some kind => .error (.nameTaken kind (Sql.Quoting.plain.identifier name))
  | none => .ok ()

def repeated? (before : List String) : List String → Option String
  | [] => none
  | c :: cs => if before.any (sameName c) then some c else repeated? (c :: before) cs

def table? (db : Database) (name : String) : Option Table := db.tables.find? (·.name == name)

def view? (db : Database) (name : String) : Option View := db.views.find? (·.name == name)

def columns? (db : Database) (name : String) : Option (List String) :=
  match db.table? name with
  | some t => some t.columns
  | none => (db.view? name).map (·.columns)

def cellAt (columns : List String) (row : List Cell) (column : String) : Cell :=
  match (columns.zip row).find? fun p => sameName column p.1 with
  | some p => p.2
  | none => .null

def project (t : Table) (columns : List String) : List (List Cell) :=
  t.rows.map fun row => columns.map (cellAt t.columns row)

def rows? (db : Database) (name : String) : Option (List (List Cell)) :=
  match db.table? name with
  | some t => some t.rows
  | none => do
    let v ← db.view? name
    let t ← db.tables.find? (sameName v.source ·.name)
    return project t v.columns

def create (db : Database) (name : String) (columns : List String) : Except Fault Database := do
  db.checkNew name
  match repeated? [] columns with
  | some c => .error (.repeatedColumn c)
  | none => return { db with tables := db.tables ++ [⟨name, columns, []⟩] }

def createView (db : Database) (name source : String) (columns : List String) : Except Fault Database := do
  db.checkNew name
  return { db with views := db.views ++ [⟨name, columns, source⟩] }

def insertInto (t : Table) (row : List Cell) : Except Fault Table := do
  if row.length != t.columns.length then .error (.cellCount t.name t.columns.length row.length)
  row.forM Cell.check
  return { t with rows := t.rows ++ [row] }

def insert (db : Database) (name : String) (row : List Cell) : Except Fault Database :=
  match db.tables.find? (sameName name ·.name) with
  | none => .error (.noTable name)
  | some t => do
    let t' ← insertInto t row
    return { db with tables := db.tables.map fun u => if u.name = t.name then t' else u }

end Database

structure Seed where
  table : String
  view : Option String
  columns : Option (List String)
  rows : List (List Cell)
  deriving DecidableEq, Repr

abbrev Change := ExceptT Fault (StateM Database)

def Change.run {α : Type} (x : Change α) (db : Database) : Except Fault α × Database :=
  Id.run (StateT.run (ExceptT.run x) db)

def change (f : Database → Except Fault Database) : Change Unit := do
  match f (← get) with
  | .ok db => set db
  | .error e => throw e

def Seed.apply (seed : Seed) : Change Unit := do
  match seed.view with
  | some view => change (·.createView view seed.table (seed.columns.getD []))
  | none =>
    if let some columns := seed.columns then change (·.create seed.table columns)
    seed.rows.forM fun row => change (·.insert seed.table row)

end TypoSearch.Store
