import TypoSearch.Calendar
import TypoSearch.Number.Binary64

/-! Loosely typed values: arguments and settings before they are checked. A dictionary keeps its
entries in order and has scalar keys. A date or a time is known by its standard spelling. -/
namespace TypoSearch
open Number (Binary64)

inductive Key where
  | null
  | bool (b : Bool)
  | int (i : Int)
  | float (x : Binary64)
  | text (s : String)
  | moment (spelling : String)
  deriving DecidableEq, Repr

inductive Value where
  | null
  | bool (b : Bool)
  | int (i : Int)
  | float (x : Binary64)
  | text (s : String)
  | moment (spelling : String)
  | list (items : List Value)
  | dict (entries : List (Key × Value))
  deriving Repr

namespace Key

def number? : Key → Option Int
  | bool b => some (if b then 1 else 0)
  | int i => some i
  | float x => x.toInt?
  | _ => none

/-- Keys are one entry if they are one text, one number or one instant. What is no number is one key. -/
def same (a b : Key) : Bool :=
  match a, b with
  | null, null => true
  | text s, text t => s == t
  | moment s, moment t => match Calendar.instant? s, Calendar.instant? t with
    | some i, some j => i == j
    | none, none => s == t
    | _, _ => false
  | float .nan, float .nan => true
  | float x, float y => x.same y
  | _, _ => match a.number?, b.number? with
    | some i, some j => i == j
    | _, _ => false

def value : Key → Value
  | null => .null
  | bool b => .bool b
  | int i => .int i
  | float x => .float x
  | text s => .text s
  | moment s => .moment s

end Key

abbrev Entries (α : Type) := List (Key × α)

namespace Entries

def get? {α : Type} (es : Entries α) (k : Key) : Option α := (es.find? (·.1.same k)).map (·.2)

def put {α : Type} : Entries α → Key → α → Entries α
  | [], k, v => [(k, v)]
  | e :: es, k, v => if e.1.same k then (e.1, v) :: es else e :: put es k v

def ofPairs {α : Type} (ps : List (Key × α)) : Entries α := ps.foldl (fun es p => put es p.1 p.2) []

end Entries

namespace Value

def kindName : Value → String
  | null => "NoneType"
  | bool _ => "bool"
  | int _ => "int"
  | float _ => "float"
  | text _ => "str"
  | moment s => if Calendar.isDate s.toList then "datetime.date" else "datetime.datetime"
  | list _ => "list"
  | dict _ => "dict"

def isVoid : Value → Bool
  | null => true
  | bool b => !b
  | int i => i == 0
  | float x => x.isZero
  | text s => s.isEmpty
  | moment _ => false
  | list xs => xs.isEmpty
  | dict es => es.isEmpty

def key? : Value → Option Key
  | null => some .null
  | bool b => some (.bool b)
  | int i => some (.int i)
  | float x => some (.float x)
  | text s => some (.text s)
  | moment s => some (.moment s)
  | _ => none

def texts (ss : List String) : Value := list (ss.map text)

end Value
end TypoSearch
