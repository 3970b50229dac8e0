import TypoSearch.Json.Text
import TypoSearch.Number.Digits
import TypoSearch.Value

/-! Values from JSON documents. A number with a fraction or a power of ten is a float, all others are
integers of any size; of a repeated key the last value counts, in the first place. -/
namespace TypoSearch.Json
open Number (Digit Binary64 ofDigits plainDigitOf?)

def isSpace (c : Char) : Bool := c = ' ' || c = '\n' || c = '\r' || c = '\t'

def skipSpace (cs : List Char) : List Char := cs.dropWhile isSpace

def skipWord? (word : List Char) (cs : List Char) : Option (List Char) :=
  if word.isPrefixOf cs then some (cs.drop word.length) else none

def takeDigits : List Char → List Digit × List Char
  | [] => ([], [])
  | c :: cs =>
    match plainDigitOf? c with
    | some d =>
      let (ds, rest) := takeDigits cs
      (d :: ds, rest)
    | none => ([], c :: cs)

def takeFraction : List Char → List Digit × List Char
  | '.' :: cs => match takeDigits cs with
    | ([], _) => ([], '.' :: cs)
    | taken => taken
  | cs => ([], cs)

def takePower : List Char → Option Int × List Char
  | c :: cs =>
    if c = 'e' || c = 'E' then
      let (negative, digits) := match cs with
        | '-' :: ds => (true, ds)
        | '+' :: ds => (false, ds)
        | ds => (false, ds)
      match takeDigits digits with
      | ([], _) => (none, c :: cs)
      | (ds, rest) => (some (if negative then -(ofDigits ds : Int) else ofDigits ds), rest)
    else (none, c :: cs)
  | [] => (none, [])

def readUnsigned? (negative : Bool) (cs : List Char) : Option (Value × List Char) :=
  match takeDigits cs with
  | ([], _) => none
  | (whole, rest) =>
    let (fraction, rest) := takeFraction rest
    let (power, rest) := takePower rest
    if fraction.isEmpty && power.isNone then
      some (.int (if negative then -(ofDigits whole : Int) else ofDigits whole), rest)
    else
      some (.float (Binary64.ofDecimal negative (ofDigits (whole ++ fraction))
        (power.getD 0 - fraction.length)), rest)

def words : List (List Char × Value) :=
  [("null".toList, .null), ("true".toList, .bool true), ("false".toList, .bool false),
   ("NaN".toList, .float .nan), ("Infinity".toList, .float (.infinite false)),
   ("-Infinity".toList, .float (.infinite true))]

def readScalar? (cs : List Char) : Option (Value × List Char) :=
  match words.findSome? fun w => (skipWord? w.1 cs).map (w.2, ·) with
  | some r => some r
  | none => match cs with
    | '-' :: cs => readUnsigned? true cs
    | cs => readUnsigned? false cs

def readKey? (cs : List Char) : Option (Key × List Char) :=
  match skipSpace cs with
  | '"' :: cs => do
    let (s, rest) ← readText? (cs.length + 1) cs
    match skipSpace rest with
    | ':' :: rest => some (.text (String.ofList s), rest)
    | _ => none
  | _ => none

mutual

def readValue? : (fuel : Nat) → List Char → Option (Value × List Char)
  | 0, _ => none
  | fuel + 1, cs =>
    match skipSpace cs with
    | '"' :: cs => (readText? (cs.length + 1) cs).map fun r => (.text (String.ofList r.1), r.2)
    | '[' :: cs => match skipSpace cs with
      | ']' :: rest => some (.list [], rest)
      | _ => (readItems? fuel cs).map fun r => (.list r.1, r.2)
    | '\x7b' :: cs => match skipSpace cs with
      | '\x7d' :: rest => some (.dict [], rest)
      | _ => (readEntries? fuel cs).map fun r => (.dict (Entries.ofPairs r.1), r.2)
    | cs => readScalar? cs

def readItems? : (fuel : Nat) → List Char → Option (List Value × List Char)
  | 0, _ => none
  | fuel + 1, cs => do
    let (v, rest) ← readValue? fuel cs
    match skipSpace rest with
    | ',' :: rest => do
      let (vs, rest) ← readItems? fuel rest
      some (v :: vs, rest)
    | ']' :: rest => some ([v], rest)
    | _ => none

def readEntries? : (fuel : Nat) → List Char → Option (List (Key × Value) × List Char)
  | 0, _ => none
  | fuel + 1, cs => do
    let (k, rest) ← readKey? cs
    let (v, rest) ← readValue? fuel rest
    match skipSpace rest with
    | ',' :: rest => do
      let (es, rest) ← readEntries? fuel rest
      some ((k, v) :: es, rest)
    | '\x7d' :: rest => some ([(k, v)], rest)
    | _ => none

end

/-- Every value takes a character, so the length of the document bounds the depth of reading. -/
def read? (s : String) : Option Value :=
  let cs := s.toList
  match readValue? (2 * cs.length + 1) cs with
  | some (v, rest) => if (skipSpace rest).isEmpty then some v else none
  | none => none

end TypoSearch.Json
