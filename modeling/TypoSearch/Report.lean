import TypoSearch.Fault
import TypoSearch.Json.Writer

/-! Reports of rows: numbered blocks of aligned lines, or a JSON document that echoes the query. -/
namespace TypoSearch

abbrev Row := Entries Value

inductive Format where
  | text
  | json
  deriving DecidableEq, Repr

namespace Format

def name : Format → String
  | text => "text"
  | json => "json"

def all : List Format := [text, json]

def names : List String := all.map name

def ofName? (s : String) : Option Format := all.find? (·.name == s)

def ofValue (given : Value) : Except Fault Format :=
  match given.key? with
  | none => .error (.unhashable given.kindName)
  | some (.text s) => match ofName? s with
    | some f => .ok f
    | none => Fault.raise (.format given)
  | some _ => Fault.raise (.format given)

end Format

namespace Report

def keyText (k : Key) : String := k.value.plain

def cellText : Value → String
  | .null => "-"
  | v => v.plain

def padded (width : Nat) (s : String) : String := s.pushn ' ' (width - s.length)

def rowLines (number : Nat) (row : Row) : List String :=
  if row.isEmpty then []
  else
    let width := (row.map fun e => (keyText e.1).length).foldl max 0
    (toString number ++ ".") :: row.map fun e => "   " ++ padded width (keyText e.1) ++ ": " ++ cellText e.2

def linesFrom : (number : Nat) → List Row → List String
  | _, [] => []
  | number, row :: rows => rowLines number row ++ linesFrom (number + 1) rows

def text (rows : List Row) : String := "\n".intercalate (linesFrom 1 rows)

def payload (query : Option Value) (rows : List Row) : Value :=
  let body := [(Key.text "count", Value.int rows.length), (.text "rows", .list (rows.map .dict))]
  .dict (match query with
    | some q => (.text "query", q) :: body
    | none => body)

def json (query : Option Value) (rows : List Row) : String := Json.indented (payload query rows)

def render (format : Format) (query : Option Value) (rows : List Row) : String :=
  match format with
  | .text => text rows
  | .json => json query rows

def shows (format : Format) (query : Option Value) (rows : List Row) : List Value :=
  match format with
  | .text => rows.map .dict
  | .json => query.toList ++ rows.map .dict

def isWritable (format : Format) (query : Option Value) (rows : List Row) : Bool :=
  (shows format query rows).all Value.isWritable

def rendered (format : Format) (query : Option Value) (rows : List Row) : Except Fault String :=
  if isWritable format query rows then .ok (render format query rows) else .error .unwritable

end Report
end TypoSearch
