import TypoSearch.Logic
import TypoSearch.Text.Blank
import TypoSearch.Text.Case

/-! Fields of a settings mapping and the kinds of value they may hold. -/
namespace TypoSearch.Config

abbrev Section := Entries Value

def entries (given : Value) : Except Fault Section :=
  match given with
  | .dict es => .ok es
  | v => .error (.noMethod v.kindName "get")

def sectionOf (root : Section) (name : String) (required : Bool) : Except Fault Section :=
  match root.get? (.text name) with
  | none | some .null => if required then .error (.missingSetting name) else .ok []
  | some (.dict es) => .ok es
  | some _ => .error (.settingKind name "an object")

def field (s : Section) (name setting : String) : Except Fault Value :=
  match s.get? (.text name) with
  | some v => .ok v
  | none => .error (.missingSetting setting)

def textField (s : Section) (group name : String) : Except Fault String := do
  let setting := group ++ "." ++ name
  match ← field s name setting with
  | .text t => return t
  | _ => .error (.settingKind setting "a string")

def boolField (s : Section) (group name : String) : Except Fault Bool := do
  let setting := group ++ "." ++ name
  match ← field s name setting with
  | .bool b => return b
  | _ => .error (.settingKind setting "a boolean")

def intField (s : Section) (group name : String) : Except Fault Int := do
  let setting := group ++ "." ++ name
  match ← field s name setting with
  | .int i => return i
  | _ => .error (.settingKind setting "an integer")

def trimmed (s : String) : String := String.ofList (Text.trim s.toList)

def logicField (s : Section) (group name : String) : Except Fault Logic := do
  let word := Text.upper (trimmed (← textField s group name))
  Logic.ofValue (group ++ "." ++ name) (.text word)

end TypoSearch.Config
