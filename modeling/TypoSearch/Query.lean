import TypoSearch.Text.Blank
import TypoSearch.Fault

/-! Arguments of a search: the terms of a query, the items of a sequence and the typo budget. -/
namespace TypoSearch

namespace Value

def size (v : Value) : Except Fault Nat :=
  match v with
  | text s => .ok s.length
  | list xs => .ok xs.length
  | dict es => .ok es.length
  | _ => .error (.noLength v.kindName)

def members (v : Value) : Except Fault (List Value) :=
  match v with
  | text s => .ok (s.toList.map fun c => text c.toString)
  | list xs => .ok xs
  | dict es => .ok (es.map (·.1.value))
  | _ => .error (.notIterable v.kindName)

end Value

namespace Query

def terms (raw : String) : List String := (Text.words raw.toList).map String.ofList

def termsOf (raw : Value) : Except Fault (List String) :=
  match raw with
  | .text s => .ok (terms s)
  | v => if v.isVoid then .ok [] else .error (.notText v.kindName)

structure Parsed where
  raw : Value
  terms : List String
  deriving Repr

def Parsed.nonempty (p : Parsed) : Bool := !p.terms.isEmpty

def parse (raw : Value) : Except Fault Parsed := do
  let terms ← termsOf raw
  return ⟨if raw.isVoid then .text "" else raw, terms⟩

end Query

namespace Budget

def ofValue (given : Value) : Except Fault Nat :=
  match given with
  | .int (.ofNat n) => .ok n
  | _ => Fault.raise (.budget given)

end Budget
end TypoSearch
