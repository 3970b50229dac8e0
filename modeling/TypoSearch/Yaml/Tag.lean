import TypoSearch.Text.LineEnd
import TypoSearch.Yaml.Moment
import TypoSearch.Yaml.Node

/-! Tags: what kind of value a node stands for. A node without a tag, or with the mark that leaves its
tag open, has the tag of its shape; an open scalar takes it from its text, where one line break
at the end does not count. -/
namespace TypoSearch.Yaml

inductive Tag where
  | null
  | bool
  | int
  | float
  | text
  | bytes
  | moment
  | merge
  | stand
  | sequence
  | mapping
  | set
  | orderedPairs
  | unknown
  deriving DecidableEq, Repr

namespace Tag

def names : List (String × Tag) :=
  [("null", null), ("bool", bool), ("int", int), ("float", float), ("str", text), ("binary", bytes),
   ("timestamp", moment), ("merge", merge), ("value", stand), ("seq", sequence), ("map", mapping),
   ("set", set), ("omap", orderedPairs), ("pairs", orderedPairs)]

def ofName (name : String) : Tag :=
  match names.find? fun n => standardTag ++ n.1 == name with
  | some n => n.2
  | none => unknown

def nullWords : List String := ["~", "null", "Null", "NULL"]

def boolWords : List String :=
  ["yes", "Yes", "YES", "no", "No", "NO", "true", "True", "TRUE", "false", "False", "FALSE",
   "on", "On", "ON", "off", "Off", "OFF"]

def isCount : List Char → Bool
  | c :: cs => isDecimal c && c != '0' && cs.all (digitOrUnderscore 10)
  | [] => false

def isInBase (base : Nat) (ds : List Char) : Bool := !ds.isEmpty && ds.all (digitOrUnderscore base)

def isUnsignedInt : List Char → Bool
  | '0' :: 'b' :: ds => isInBase 2 ds
  | '0' :: 'x' :: ds => isInBase 16 ds
  | '0' :: ds => ds.all (digitOrUnderscore 8)
  | cs => match splitAt ':' cs with
    | first :: rest => isCount first && rest.all isSixtieth
    | [] => false

def isInt (cs : List Char) : Bool := isUnsignedInt (Number.takeSign cs).2

def isPower : List Char → Bool
  | [] => true
  | e :: sign :: ds => (e = 'e' || e = 'E') && (sign = '+' || sign = '-') && !ds.isEmpty && ds.all isDecimal
  | _ => false

def isFraction (cs : List Char) : Bool := isPower (cs.dropWhile (digitOrUnderscore 10))

def isPointed (cs : List Char) : Bool :=
  match cs.dropWhile (digitOrUnderscore 10) with
  | '.' :: rest => startsDecimal (cs.takeWhile (digitOrUnderscore 10)) && isFraction rest
  | _ => false

def isSixtiethFloat (cs : List Char) : Bool :=
  match splitAt '.' cs with
  | [whole, fraction] => fraction.all (digitOrUnderscore 10) &&
    match splitAt ':' whole with
    | first :: second :: rest => startsDecimal first && (second :: rest).all isSixtieth
    | _ => false
  | _ => false

def infinityWords : List (List Char) := [".inf".toList, ".Inf".toList, ".INF".toList]

def nanWords : List (List Char) := [".nan".toList, ".NaN".toList, ".NAN".toList]

def isFloat (cs : List Char) : Bool :=
  let body := (Number.takeSign cs).2
  isPointed body || isSixtiethFloat body || infinityWords.contains body || nanWords.contains cs ||
    match cs with
    | '.' :: d :: ds => isDecimal d && isFraction ds
    | _ => false

def mergeWord : String := "<<"

def standWord : String := "="

def ofText (s : String) : Tag :=
  let cs := Text.dropLineEnd s.toList
  let word := String.ofList cs
  if s.isEmpty || nullWords.contains word then null
  else if boolWords.contains word then bool
  else if isFloat cs then float
  else if isInt cs then int
  else if word = mergeWord then merge
  else if Moment.isWritten cs then moment
  else if word = standWord then stand
  else text

end Tag

namespace Node

def tag : Node → Tag
  | .scalar none s isPlain => if isPlain then Tag.ofText s else .text
  | .scalar (some t) s _ => if t = unspecificTag then Tag.ofText s else Tag.ofName t
  | .sequence none _ => .sequence
  | .sequence (some t) _ => if t = unspecificTag then .sequence else Tag.ofName t
  | .mapping none _ => .mapping
  | .mapping (some t) _ => if t = unspecificTag then .mapping else Tag.ofName t

end Node
end TypoSearch.Yaml
