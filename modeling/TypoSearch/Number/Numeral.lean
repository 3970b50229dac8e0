import TypoSearch.Number.Digits
import TypoSearch.Number.Shortest

/-! Written numbers: a sign, digits, a fraction and perhaps a power of ten. A number is shown with
its shortest digits, positionally from 10⁻⁴ up to 10¹⁶ and with a power of ten outside. The plain
form of a numeral carries the power of ten out and denotes the same number. -/
namespace TypoSearch.Number

structure Numeral where
  negative : Bool
  whole : List Digit
  fraction : List Digit
  exponent : Option Int
  deriving DecidableEq, Repr

namespace Numeral

def signChars (negative : Bool) : List Char := if negative then ['-'] else []

def fractionChars (ds : List Digit) : List Char := if ds.isEmpty then [] else '.' :: digitChars ds

def exponentChars (e : Int) : List Char :=
  let ds := digitChars (digits e.natAbs)
  'e' :: (if e < 0 then '-' else '+') :: (if ds.length < 2 then '0' :: ds else ds)

def chars (n : Numeral) : List Char :=
  signChars n.negative ++ digitChars n.whole ++ fractionChars n.fraction ++
    match n.exponent with
    | none => []
    | some e => exponentChars e

def text (n : Numeral) : String := String.ofList n.chars

def placed (negative : Bool) (ds : List Digit) (point : Int) : Numeral :=
  if point ≤ 0 then ⟨negative, zeros 1, zeros (-point).toNat ++ ds, none⟩
  else
    let n := point.toNat
    ⟨negative, ds.take n ++ zeros (n - ds.length), ds.drop n, none⟩

def plain (n : Numeral) : Numeral :=
  match n.exponent with
  | none => n
  | some e => placed n.negative (n.whole ++ n.fraction) (n.whole.length + e)

def withPoint (n : Numeral) : Numeral := if n.fraction.isEmpty then { n with fraction := zeros 1 } else n

def positionalFrom : Int := -4

def positionalBelow : Int := 16

def ofDigits (negative : Bool) (ds : List Digit) (leading : Int) : Numeral :=
  if positionalFrom ≤ leading && leading < positionalBelow then
    (placed negative ds (leading + 1)).withPoint
  else ⟨negative, ds.take 1, ds.drop 1, some leading⟩

def shortest (negative : Bool) (units : Nat) : Numeral :=
  if units = 0 then ⟨negative, zeros 1, zeros 1, none⟩
  else
    let d := Decimal.shortest units
    let ds := digits d.coefficient
    ofDigits negative ds (d.exponent + ds.length - 1)

end Numeral

namespace Binary64

def form (finiteForm : Bool → Nat → String) : Binary64 → String
  | nan => "nan"
  | infinite negative => if negative then "-inf" else "inf"
  | finite negative units => finiteForm negative units

def shown (x : Binary64) : String := x.form fun negative units => (Numeral.shortest negative units).text

def plainText (x : Binary64) : String :=
  x.form fun negative units => (Numeral.shortest negative units).plain.text

def fixed (places : Nat) (x : Binary64) : String :=
  x.form fun negative units =>
    let ds := digits (divHalfEven (units * Nat.pow 10 places) unit)
    let padded := zeros (places + 1 - ds.length) ++ ds
    (Numeral.mk negative (padded.take (padded.length - places)) (padded.drop (padded.length - places)) none).text

end Binary64
end TypoSearch.Number
