import TypoSearch.Text.Base64
import TypoSearch.Yaml.Number
import TypoSearch.Yaml.Tag

/-! The values of nodes. A document is built level by level, so of several faults the one nearest to
the root is reported, and on one level the first. Sets and ordered pairs become lists of their
members, and bytes the list of their numbers. -/
namespace TypoSearch.Yaml

structure DeepFault where
  depth : Nat
  fault : Fault
  deriving Repr

abbrev Built (α : Type) := Except DeepFault α

namespace Built

def here {α : Type} (x : Except Fault α) : Built α := x.mapError (⟨0, ·⟩)

def fails {α : Type} (fault : Fault) : Built α := .error ⟨0, fault⟩

def below {α : Type} (x : Built α) : Built α := x.mapError fun e => ⟨e.depth + 1, e.fault⟩

/-- Two parts of one level: both are tried, and the fault nearer to it is kept. -/
def both {α β : Type} (a : Built α) (b : Built β) : Built (α × β) :=
  match a, b with
  | .ok x, .ok y => .ok (x, y)
  | .ok _, .error e => .error e
  | .error e, .ok _ => .error e
  | .error e, .error f => .error (if f.depth < e.depth then f else e)

end Built

def bytesValue (s : String) : Except Fault Value :=
  match Text.decodeBase64? s.toList with
  | some bytes => .ok (.list (bytes.map fun b => .int b.toNat))
  | none => .error .settingsText

def momentValue (s : String) : Except Fault Value :=
  match Moment.ofChars? (Text.dropLineEnd s.toList) with
  | some m => do
    m.check
    return .moment m.text
  | none => .error (.noMethod "NoneType" "groupdict")

def scalarValue (tag : Tag) (s : String) : Except Fault Value :=
  match tag with
  | .null => .ok .null
  | .bool => (boolOf s).map .bool
  | .int => (intOf s).map .int
  | .float => (floatOf s).map .float
  | .text => .ok (.text s)
  | .bytes => bytesValue s
  | .moment => momentValue s
  | _ => .error .settingsText

def isScalarTag : Tag → Bool
  | .null | .bool | .int | .float | .text | .bytes | .moment => true
  | _ => false

def keyOf (v : Value) : Built Key :=
  match v.key? with
  | some k => .ok k
  | none => Built.fails .settingsText

namespace Node

mutual

def scalarText? : Node → Option String
  | .scalar _ s _ => some s
  | .sequence _ _ => none
  | .mapping _ entries => standingText? entries

def standingText? : List (Node × Node) → Option String
  | [] => none
  | (k, v) :: es => if k.tag = .stand then v.scalarText? else standingText? es

end

def standingKey (k : Node) : Built Key :=
  match k.scalarText? with
  | some s => .ok (.text s)
  | none => Built.fails .settingsText

mutual

def mergesWell : List (Node × Node) → Bool
  | [] => true
  | (k, v) :: es => (k.tag != .merge || v.isMergeable) && mergesWell es

def isMergeable : Node → Bool
  | .mapping _ entries => mergesWell entries
  | .sequence _ items => areMappings items
  | .scalar .. => false

def areMappings : List Node → Bool
  | [] => true
  | n :: ns => n.isMapping && areMappings ns

def isMapping : Node → Bool
  | .mapping _ entries => mergesWell entries
  | _ => false

end

mutual

def value (n : Node) : Built Value :=
  match n with
  | .scalar t s isPlain =>
    match (Node.scalar t s isPlain).tag with
    | .sequence | .mapping | .set | .orderedPairs => Built.below (Built.fails .settingsText)
    | tag => Built.here (scalarValue tag s)
  | .sequence t items =>
    match (Node.sequence t items).tag with
    | .sequence => Built.below ((values items).map .list)
    | .orderedPairs => Built.below ((pairs items).map .list)
    | .mapping | .set => Built.below (Built.fails .settingsText)
    | _ => Built.fails .settingsText
  | .mapping t entries =>
    match (Node.mapping t entries).tag with
    | .mapping => Built.below ((gathered entries).map fun es => .dict (Entries.ofPairs es))
    | .set => Built.below ((gathered entries).map fun es => .list ((Entries.ofPairs es).map (·.1.value)))
    | .sequence | .orderedPairs => Built.below (Built.fails .settingsText)
    | tag => match standingText? entries with
      | some s => Built.here (if tag = .moment then .error (.notText "list") else scalarValue tag s)
      | none => Built.fails .settingsText

def values : List Node → Built (List Value)
  | [] => .ok []
  | n :: ns => (Built.both n.value (values ns)).map fun p => p.1 :: p.2

def pairs : List Node → Built (List Value)
  | [] => .ok []
  | .mapping _ [(k, v)] :: ns =>
    (Built.both (Built.both k.value v.value) (pairs ns)).map fun p => .list [p.1.1, p.1.2] :: p.2
  | _ :: _ => Built.fails .settingsText

def gathered (entries : List (Node × Node)) : Built (List (Key × Value)) :=
  if mergesWell entries then (Built.both (merged entries) (own entries)).map fun p => p.1 ++ p.2
  else Built.fails .settingsText

def merged : List (Node × Node) → Built (List (Key × Value))
  | [] => .ok []
  | (k, v) :: es =>
    if k.tag = .merge then (Built.both v.contributed (merged es)).map fun p => p.1 ++ p.2
    else merged es

def contributed : Node → Built (List (Key × Value))
  | .mapping _ entries => (Built.both (merged entries) (own entries)).map fun p => p.1 ++ p.2
  | .sequence _ items => contributions items
  | .scalar .. => .ok []

def contributions : List Node → Built (List (Key × Value))
  | [] => .ok []
  | n :: ns => (Built.both (contributions ns) n.contributed).map fun p => p.1 ++ p.2

def own : List (Node × Node) → Built (List (Key × Value))
  | [] => .ok []
  | (k, v) :: es =>
    if k.tag = .merge then own es
    else
      let key :=
        if k.tag = .stand then standingKey k
        else if isScalarTag k.tag then k.value.bind keyOf
        else Built.fails .settingsText
      (Built.both (Built.both key v.value) (own es)).map fun p => (p.1.1, p.1.2) :: p.2

end

end Node

def load (s : String) : Except Fault Value :=
  match tokens? s with
  | none => .error .settingsText
  | some ts => match Node.ofTokens? ts with
    | some none => .ok .null
    | some (some n) => n.value.mapError (·.fault)
    | none => match ts.getLast? with
      | some (.beyond code) => .error (.codePoint code)
      | _ => .error .settingsText

end TypoSearch.Yaml
