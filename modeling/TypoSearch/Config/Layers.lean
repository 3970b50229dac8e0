import TypoSearch.Config.Merge
import TypoSearch.Config.Settings
import TypoSearch.Yaml.Schema

/-! Settings from documents: standard ones, or those of a text, overridden by another text. -/
namespace TypoSearch.Config

def ofText (text : String) : Except Fault Section := do
  let v ← Yaml.load text
  if v.isVoid then return []
  match v with
  | .dict es => return es
  | _ => .error .settingsRoot

def standardEntries : Section :=
  match Settings.standard.toValue with
  | .dict es => es
  | _ => []

def baseOf (standards : Option String) : Except Fault Section :=
  match standards with
  | some text => ofText text
  | none => .ok standardEntries

def layered (standards override : Option String) : Except Fault Settings := do
  let base ← baseOf standards
  match override with
  | none => Settings.ofValue (.dict base)
  | some text => Settings.ofValue (.dict (merge base (← ofText text)))

end TypoSearch.Config
