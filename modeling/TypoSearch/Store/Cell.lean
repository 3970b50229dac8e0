import TypoSearch.Fault
import TypoSearch.Number.Reading

/-! Cells of stored rows. All but the empty cell are compared as texts. As a condition a cell is true if it is a
number other than zero, or a text that begins with one. -/
namespace TypoSearch.Store
open Number (Binary64 Digit)

inductive Cell where
  | null
  | int (i : Int)
  | real (x : Binary64)
  | text (s : String)
  | blob (bytes : List UInt8)
  deriving DecidableEq, Repr

def integerLimit : Int := (1 <<< 63 : Nat)

def fitsInteger (i : Int) : Bool := -integerLimit ≤ i && i < integerLimit

def byteDelimiter (bytes : List UInt8) : Char :=
  if bytes.contains 0x27 && !bytes.contains 0x22 then '"' else '\''

def byteChars (delimiter : Char) (b : UInt8) : List Char :=
  let c := Char.ofNat b.toNat
  if c = delimiter || c = '\\' then ['\\', c]
  else if c = '\n' then ['\\', 'n']
  else if c = '\r' then ['\\', 'r']
  else if c = '\t' then ['\\', 't']
  else if b < 0x20 || 0x7F ≤ b then '\\' :: 'x' :: Text.hexDigits 2 b.toNat
  else [c]

def bytesText (bytes : List UInt8) : String :=
  let delimiter := byteDelimiter bytes
  String.ofList ('b' :: delimiter :: bytes.flatMap (byteChars delimiter) ++ [delimiter])

namespace Cell

def ofFloat : Binary64 → Cell
  | .nan => null
  | x => real x

def check : Cell → Except Fault Unit
  | int i => if fitsInteger i then .ok () else .error .integerRange
  | _ => .ok ()

def text? : Cell → Option String
  | null => none
  | int i => some (toString i)
  | real x => some x.shown
  | text s => some s
  | blob bytes => some (bytesText bytes)

def value : Cell → Value
  | null => .null
  | int i => .int i
  | real x => .float x
  | text s => .text s
  | blob bytes => .text (bytesText bytes)

end Cell

/-! ## Cells as conditions -/

def engineBlanks : List Char := [' ', '\t', '\n', '\x0b', '\x0c', '\r']

def leadingDigits (cs : List Char) : List Digit × List Char :=
  let ds := cs.takeWhile fun c => (Number.plainDigitOf? c).isSome
  (ds.filterMap Number.plainDigitOf?, cs.drop ds.length)

def leadingFraction : List Char → List Digit × List Char
  | '.' :: cs => leadingDigits cs
  | cs => ([], cs)

def leadingExponent : List Char → Int
  | c :: cs =>
    let (negative, cs) := Number.takeSign cs
    let power : Int := Number.ofDigits (leadingDigits cs).1
    if c = 'e' || c = 'E' then (if negative then -power else power) else 0
  | [] => 0

def leadingNumber (cs : List Char) : Binary64 :=
  let (negative, cs) := Number.takeSign (cs.dropWhile engineBlanks.contains)
  let (whole, rest) := leadingDigits cs
  let (fraction, rest) := leadingFraction rest
  Binary64.ofDecimal negative (Number.ofDigits (whole ++ fraction)) (leadingExponent rest - fraction.length)

def Cell.truth? : Cell → Option Bool
  | null => none
  | int i => some (i != 0)
  | real x => some !x.isZero
  | text s => some !(leadingNumber s.toList).isZero
  | blob bytes => some !(leadingNumber (bytes.map fun b => Char.ofNat b.toNat)).isZero

end TypoSearch.Store
