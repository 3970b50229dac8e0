import TypoSearch.Query

/-! Layers of settings. The later layer wins, except that two mappings at one place are merged entry by
entry; entries keep the place they had, and new ones follow. -/
namespace TypoSearch.Config

mutual

def mergeEntries (base : Entries Value) : Entries Value → Entries Value
  | [] => base
  | (k, v) :: rest => mergeEntries (base.put k (mergeValue (base.get? k) v)) rest

def mergeValue (old : Option Value) : Value → Value
  | .dict es => match old with
    | some (.dict bs) => .dict (mergeEntries bs es)
    | _ => .dict es
  | .null => .null
  | .bool b => .bool b
  | .int i => .int i
  | .float x => .float x
  | .text s => .text s
  | .moment s => .moment s
  | .list xs => .list xs

end

def merge (base override : Entries Value) : Entries Value := mergeEntries base override

def entryOf (place : Nat) (given : Value) : Except Fault (Key × Value) :=
  match given.members with
  | .error _ => .error (.entryKind place)
  | .ok [k, v] => match k.key? with
    | some key => .ok (key, v)
    | none => .error (.unhashable k.kindName)
  | .ok parts => .error (.entryLength place parts.length)

def baseEntries (given : Value) : Except Fault (Entries Value) :=
  match given with
  | .dict es => .ok es
  | v => do
    let members ← v.members
    return Entries.ofPairs (← members.zipIdx.mapM fun m => entryOf m.2 m.1)

def overrideEntries (given : Value) : Except Fault (Entries Value) :=
  match given with
  | .dict es => .ok es
  | v => .error (.noMethod v.kindName "items")

def mergeValues (base override : Value) : Except Fault (Entries Value) := do
  let base ← baseEntries base
  let override ← overrideEntries override
  return merge base override

end TypoSearch.Config
