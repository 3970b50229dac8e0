import TypoSearch.Fault
import TypoSearch.Number.Reading

/-! Values taken as numbers. -/
namespace TypoSearch
open Number (Binary64)

namespace Value

def ofWhole (i : Int) : Except Fault Binary64 :=
  match Binary64.ofInt? i with
  | some x => .ok x
  | none => .error .tooLarge

def toBinary64 (v : Value) : Except Fault Binary64 :=
  match v with
  | float x => .ok x
  | int i => ofWhole i
  | bool b => ofWhole (if b then 1 else 0)
  | text s => match Number.readBinary64? s with
    | some x => .ok x
    | none => .error (.unreadableNumber s)
  | _ => .error (.notNumber v.kindName)

def plainNumber (v : Value) : Except Fault String := do return (← v.toBinary64).plainText

end Value
end TypoSearch
