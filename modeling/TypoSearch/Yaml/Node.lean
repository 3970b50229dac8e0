import TypoSearch.Yaml.Lexer

/-! The tree of a settings document. Aliases stand for the nodes they name, so a tree has none. -/
namespace TypoSearch.Yaml

inductive Node where
  | scalar (tag : Option String) (text : String) (isPlain : Bool)
  | sequence (tag : Option String) (items : List Node)
  | mapping (tag : Option String) (entries : List (Node × Node))
  deriving Repr

def Node.empty : Node := .scalar none "" true

def standardTag : String := "tag:yaml.org,2002:"

def unspecificTag : String := "!"

namespace Node

/-- What a parser has left, the prefixes of tags and the nodes that have names. A name without a node
belongs to a node that is not complete. -/
structure Source where
  tokens : List Token
  handles : List (String × String) := []
  anchors : List (String × Option Node) := []

namespace Source

def peek? (s : Source) : Option Token := s.tokens.head?

def drop (s : Source) : Source := { s with tokens := s.tokens.tail }

def isNext (s : Source) (ts : List Token) : Bool := s.peek?.any ts.contains

def declare? (s : Source) (name : Option String) : Option Source :=
  match name with
  | none => some s
  | some n => if s.anchors.any (·.1 == n) then none else some { s with anchors := (n, none) :: s.anchors }

def define (s : Source) (name : Option String) (node : Node) : Source :=
  match name with
  | none => s
  | some n => { s with anchors := (n, some node) :: s.anchors }

def tagName? (s : Source) (handle : Option String) (name : String) : Option String :=
  match handle with
  | none => some name
  | some h => match s.handles.lookup h with
    | some start => some (start ++ name)
    | none => match h with
      | "!" => some ("!" ++ name)
      | "!!" => some (standardTag ++ name)
      | _ => none

end Source

def properties? (s : Source) : Option (Option String × Option String × Source) :=
  match s.tokens with
  | .anchor a :: .tag h t :: rest => do
    let name ← s.tagName? h t
    return (some a, some name, { s with tokens := rest })
  | .anchor a :: rest => some (some a, none, { s with tokens := rest })
  | .tag h t :: .anchor a :: rest => do
    let name ← s.tagName? h t
    return (some a, some name, { s with tokens := rest })
  | .tag h t :: rest => do
    let name ← s.tagName? h t
    return (none, some name, { s with tokens := rest })
  | _ => some (none, none, s)

inductive Place where
  | flow
  | block
  | blockValue
  deriving DecidableEq, Repr

mutual

def parse? : (fuel : Nat) → Place → Source → Option (Node × Source)
  | 0, _, _ => none
  | fuel + 1, place, s =>
    match s.tokens with
    | .alias name :: rest => match s.anchors.lookup name with
      | some (some node) => some (node, { s with tokens := rest })
      | _ => none
    | _ => do
      let (anchor, tag, s) ← properties? s
      let s ← s.declare? anchor
      let (node, s) ← content? fuel place (anchor.isSome || tag.isSome) tag s
      return (node, s.define anchor node)

def content? : (fuel : Nat) → Place → (named : Bool) → Option String → Source → Option (Node × Source)
  | 0, _, _, _, _ => none
  | fuel + 1, place, named, tag, s =>
    match s.peek? with
    | some (.scalar text isPlain) => some (.scalar tag text isPlain, s.drop)
    | some .sequenceStart => (flowItems? fuel true s.drop).map fun r => (.sequence tag r.1, r.2)
    | some .mappingStart => (flowEntries? fuel true s.drop).map fun r => (.mapping tag r.1, r.2)
    | some t =>
      if t = .entry && place = .blockValue then
        (looseItems? fuel s).map fun r => (.sequence tag r.1, r.2)
      else if t = .blockSequenceStart && place ≠ .flow then
        (blockItems? fuel s.drop).map fun r => (.sequence tag r.1, r.2)
      else if t = .blockMappingStart && place ≠ .flow then
        (blockEntries? fuel s.drop).map fun r => (.mapping tag r.1, r.2)
      else if named then some (.scalar tag "" true, s) else none
    | none => if named then some (.scalar tag "" true, s) else none

def optional? : (fuel : Nat) → Place → (ending : List Token) → Source → Option (Node × Source)
  | 0, _, _, _ => none
  | fuel + 1, place, ending, s => if s.isNext ending then some (.empty, s) else parse? fuel place s

def blockItems? : (fuel : Nat) → Source → Option (List Node × Source)
  | 0, _ => none
  | fuel + 1, s =>
    match s.peek? with
    | some .entry => do
      let (x, s) ← optional? fuel .block [.entry, .blockEnd] s.drop
      let (xs, s) ← blockItems? fuel s
      return (x :: xs, s)
    | some .blockEnd => some ([], s.drop)
    | _ => none

def looseItems? : (fuel : Nat) → Source → Option (List Node × Source)
  | 0, _ => none
  | fuel + 1, s =>
    match s.peek? with
    | some .entry => do
      let (x, s) ← optional? fuel .block [.entry, .key, .value, .blockEnd] s.drop
      let (xs, s) ← looseItems? fuel s
      return (x :: xs, s)
    | _ => some ([], s)

def blockEntries? : (fuel : Nat) → Source → Option (List (Node × Node) × Source)
  | 0, _ => none
  | fuel + 1, s =>
    match s.peek? with
    | some .blockEnd => some ([], s.drop)
    | some .key => do
      let (k, s) ← optional? fuel .blockValue [.key, .value, .blockEnd] s.drop
      let (v, s) ← blockValue? fuel s
      let (es, s) ← blockEntries? fuel s
      return ((k, v) :: es, s)
    | _ => none

def blockValue? : (fuel : Nat) → Source → Option (Node × Source)
  | 0, _ => none
  | fuel + 1, s =>
    if s.isNext [.value] then optional? fuel .blockValue [.key, .value, .blockEnd] s.drop
    else some (.empty, s)

def flowItems? : (fuel : Nat) → (first : Bool) → Source → Option (List Node × Source)
  | 0, _, _ => none
  | fuel + 1, first, s =>
    if s.isNext [.sequenceEnd] then some ([], s.drop)
    else do
      let s ← if first then some s else if s.isNext [.separator] then some s.drop else none
      if s.isNext [.sequenceEnd] then return ([], s.drop) else
      let (x, s) ← if s.isNext [.key] then pair? fuel s.drop else parse? fuel .flow s
      let (xs, s) ← flowItems? fuel false s
      return (x :: xs, s)

def pair? : (fuel : Nat) → Source → Option (Node × Source)
  | 0, _ => none
  | fuel + 1, s => do
    let (k, s) ← optional? fuel .flow [.value, .separator, .sequenceEnd] s
    let (v, s) ← if s.isNext [.value] then optional? fuel .flow [.separator, .sequenceEnd] s.drop
      else some (.empty, s)
    return (.mapping none [(k, v)], s)

def flowEntries? : (fuel : Nat) → (first : Bool) → Source → Option (List (Node × Node) × Source)
  | 0, _, _ => none
  | fuel + 1, first, s =>
    if s.isNext [.mappingEnd] then some ([], s.drop)
    else do
      let s ← if first then some s else if s.isNext [.separator] then some s.drop else none
      if s.isNext [.mappingEnd] then return ([], s.drop) else
      let (e, s) ← if s.isNext [.key] then flowEntry? fuel s.drop
        else (parse? fuel .flow s).map fun r => ((r.1, .empty), r.2)
      let (es, s) ← flowEntries? fuel false s
      return (e :: es, s)

def flowEntry? : (fuel : Nat) → Source → Option ((Node × Node) × Source)
  | 0, _ => none
  | fuel + 1, s => do
    let (k, s) ← optional? fuel .flow [.value, .separator, .mappingEnd] s
    let (v, s) ← if s.isNext [.value] then optional? fuel .flow [.separator, .mappingEnd] s.drop
      else some (.empty, s)
    return ((k, v), s)

end

/-! ## Documents -/

def directives? : (seenVersion : Bool) → List (String × String) → List Token →
    Option (List (String × String) × List Token)
  | _, handles, [] => some (handles, [])
  | seenVersion, handles, t :: ts =>
    match t with
    | .version major => if seenVersion || major ≠ 1 then none else directives? true handles ts
    | .tagDirective h target =>
      if handles.any (·.1 == h) then none else directives? seenVersion ((h, target) :: handles) ts
    | .otherDirective => directives? seenVersion handles ts
    | _ => some (handles, t :: ts)

def isDirective : Token → Bool
  | .version _ | .tagDirective _ _ | .otherDirective => true
  | _ => false

def explicitRoot? (s : Source) : Option (Node × Source) :=
  match s.tokens with
  | [] => some (.empty, s)
  | t :: _ =>
    if t = .documentStart || t = .documentEnd || isDirective t then some (.empty, s)
    else parse? (5 * s.tokens.length + 5) .block s

def ofTokens? (ts : List Token) : Option (Option Node) :=
  match ts with
  | [] => some none
  | t :: _ => do
    let (node, s) ←
      if t = .documentStart || isDirective t then do
        let (handles, rest) ← directives? false [] ts
        match rest with
        | .documentStart :: rest => explicitRoot? { tokens := rest, handles := handles }
        | _ => none
      else parse? (5 * ts.length + 5) .block { tokens := ts }
    if (s.tokens.dropWhile (· = .documentEnd)).isEmpty then return some node else none

end Node
end TypoSearch.Yaml
