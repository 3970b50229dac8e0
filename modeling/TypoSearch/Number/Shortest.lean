import TypoSearch.Number.Binary64

/-! The shortest decimal that reads back as a given double: the fewest significant digits, and of
two such decimals the nearer one, a tie going to the even last digit. -/
namespace TypoSearch.Number

structure Decimal where
  coefficient : Nat
  exponent : Int
  deriving DecidableEq, Repr

namespace Decimal
open Binary64 (unit nearest divHalfEven)

def ratio (d : Decimal) : Nat × Nat :=
  if 0 ≤ d.exponent then (d.coefficient * Nat.pow 10 d.exponent.toNat * unit, 1)
  else (d.coefficient * unit, Nat.pow 10 (-d.exponent).toNat)

def readsAs (units : Nat) (d : Decimal) : Bool := nearest d.ratio.1 d.ratio.2 == units

def scale : Nat := 400

def leading (units : Nat) : Int :=
  ((Nat.toDigits 10 (units * Nat.pow 10 scale / unit)).length : Int) - 1 - scale

def inTens (units : Nat) (exponent : Int) : Nat × Nat :=
  if 0 ≤ exponent then (units, unit * Nat.pow 10 exponent.toNat) else (units * Nat.pow 10 (-exponent).toNat, unit)

def reading? (units : Nat) (low high nearer : Decimal) : Option Decimal :=
  if low.readsAs units then some (if high.readsAs units then nearer else low)
  else if high.readsAs units then some high else none

def onGrid? (units : Nat) (exponent : Int) : Option Decimal :=
  let r := inTens units exponent
  let low := r.1 / r.2
  reading? units ⟨low, exponent⟩ ⟨low + 1, exponent⟩ ⟨divHalfEven r.1 r.2, exponent⟩

def withDigits? (units : Nat) (count : Nat) : Option Decimal := onGrid? units (leading units + 1 - count)

/-- Seventeen digits always read back. -/
def enoughDigits : Nat := 17

def dropZeros : (fuel : Nat) → Decimal → Decimal
  | 0, d => d
  | fuel + 1, d =>
    if d.coefficient % 10 = 0 then dropZeros fuel ⟨d.coefficient / 10, d.exponent + 1⟩ else d

def search? (units : Nat) : Option Decimal := (List.range' 1 enoughDigits).findSome? (withDigits? units)

def settled (units : Nat) : Option Decimal → Decimal
  | some d => dropZeros enoughDigits d
  | none => ⟨units, -1074⟩

def shortest (units : Nat) : Decimal := settled units (search? units)

end Decimal
end TypoSearch.Number
