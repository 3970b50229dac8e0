/-! Double-precision numbers. A finite magnitude is a whole number of units of 2⁻¹⁰⁷⁴, so it is a
natural number, and each operation is exact arithmetic followed by one rounding to the nearest
representable magnitude, a tie going to the even neighbour. -/
namespace TypoSearch.Number

inductive Binary64 where
  | nan
  | infinite (negative : Bool)
  | finite (negative : Bool) (units : Nat)
  deriving DecidableEq, Repr

namespace Binary64

def unit : Nat := 1 <<< 1074

def limit : Nat := 1 <<< 2098

def significantBits : Nat := 53

def spacing (n : Nat) : Nat := 1 <<< (n.log2 + 1 - significantBits)

def divHalfEven (n d : Nat) : Nat :=
  let q := n / d
  let r := n % d
  if 2 * r < d then q else if d < 2 * r then q + 1 else q + q % 2

def nearest (n d : Nat) : Nat := let s := spacing (n / d); divHalfEven n (d * s) * s

def ofUnits (negative : Bool) (n d : Nat) : Binary64 :=
  let u := nearest n d
  if u < limit then finite negative u else infinite negative

def zero : Binary64 := finite false 0

def ofRatio (negative : Bool) (n d : Nat) : Binary64 := ofUnits negative (n * unit) d

def ofNat (n : Nat) : Binary64 := ofRatio false n 1

def finite? : Binary64 → Option Binary64
  | finite negative u => some (finite negative u)
  | _ => none

def ofInt? (i : Int) : Option Binary64 := (ofRatio (i < 0) i.natAbs 1).finite?

def isZero : Binary64 → Bool
  | finite _ u => u == 0
  | _ => false

def neg : Binary64 → Binary64
  | nan => nan
  | infinite s => infinite !s
  | finite s u => finite (!s) u

def add : Binary64 → Binary64 → Binary64
  | nan, _ => nan
  | _, nan => nan
  | infinite s, infinite t => if s = t then infinite s else nan
  | infinite s, _ => infinite s
  | _, infinite t => infinite t
  | finite s u, finite t v =>
    if s = t then ofUnits s (u + v) 1
    else if v < u then ofUnits s (u - v) 1
    else if u < v then ofUnits t (v - u) 1
    else zero

def sub (x y : Binary64) : Binary64 := add x (neg y)

def mul : Binary64 → Binary64 → Binary64
  | nan, _ => nan
  | _, nan => nan
  | infinite s, infinite t => infinite (s != t)
  | infinite s, finite t v => if v = 0 then nan else infinite (s != t)
  | finite s u, infinite t => if u = 0 then nan else infinite (s != t)
  | finite s u, finite t v => ofUnits (s != t) (u * v) unit

def div : Binary64 → Binary64 → Binary64
  | nan, _ => nan
  | _, nan => nan
  | infinite _, infinite _ => nan
  | infinite s, finite t _ => infinite (s != t)
  | finite s _, infinite t => finite (s != t) 0
  | finite s u, finite t v =>
    if v = 0 then (if u = 0 then nan else infinite (s != t)) else ofUnits (s != t) (u * unit) v

instance : Add Binary64 := ⟨add⟩
instance : Sub Binary64 := ⟨sub⟩
instance : Mul Binary64 := ⟨mul⟩
instance : Div Binary64 := ⟨div⟩
instance : Neg Binary64 := ⟨neg⟩
instance (n : Nat) : OfNat Binary64 n := ⟨ofNat n⟩

def rank? : Binary64 → Option Int
  | nan => none
  | infinite true => some (-limit)
  | infinite false => some limit
  | finite true u => some (-u)
  | finite false u => some u

def atMost (x y : Binary64) : Bool :=
  match x.rank?, y.rank? with
  | some a, some b => a ≤ b
  | _, _ => false

def below (x y : Binary64) : Bool :=
  match x.rank?, y.rank? with
  | some a, some b => a < b
  | _, _ => false

def same (x y : Binary64) : Bool :=
  match x.rank?, y.rank? with
  | some a, some b => a == b
  | _, _ => false

def clampBelow (x : Binary64) : Binary64 := if below zero x then x else zero

def toInt? : Binary64 → Option Int
  | finite s u => if u % unit = 0 then some (if s then -((u / unit : Nat) : Int) else (u / unit : Nat)) else none
  | _ => none

/-- Powers of ten beyond which every decimal is out of range, or rounds to zero. -/
def farExponent : Int := 400

def ofDecimal (negative : Bool) (coefficient : Nat) (exponent : Int) : Binary64 :=
  let magnitude := exponent + ((Nat.toDigits 10 coefficient).length : Int)
  if coefficient = 0 || magnitude < -farExponent then finite negative 0
  else if farExponent < magnitude then infinite negative
  else if 0 ≤ exponent then ofRatio negative (coefficient * Nat.pow 10 exponent.toNat) 1
  else ofRatio negative coefficient (Nat.pow 10 (-exponent).toNat)

end Binary64
end TypoSearch.Number
