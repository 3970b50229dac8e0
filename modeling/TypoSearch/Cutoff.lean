import TypoSearch.Number.Binary64
import TypoSearch.Query

/-! The least similarity that a term may have. A text of `n` characters has `n + 2` trigrams and one
typo disturbs up to three of them: the cutoff is the share that must survive the budget. The
formula is stated over a scale of numbers, so that it can be read in doubles and exactly. -/
namespace TypoSearch
open Number (Binary64)

def trigramLength : Nat := 3

def longLength : Nat := 5

/-- One typo more for long patterns, whose last trigram rarely survives inside a longer word. -/
def extraTypos (length : Int) : Nat := if (longLength : Int) < length then 1 else 0

def adjustedTypos (length typos : Int) : Int := typos + extraTypos length

class Scale (ν : Type) where
  ofNat : Nat → Except Fault ν
  zero : ν
  one : ν
  survivors : (n k : ν) → ν
  keeping : (lost total : Nat) → ν
  percent : (lost total : Nat) → ν
  atLeast : ν → ν → Bool

namespace Cutoff

def ofLength {ν : Type} [Scale ν] (length typos : Nat) : Except Fault ν :=
  if length < trigramLength then .ok (if 1 ≤ typos then Scale.zero else Scale.one)
  else do
    let n ← Scale.ofNat length
    let k ← Scale.ofNat typos
    return Scale.survivors n k

def lengthOf (given : Value) : Except Fault Nat :=
  match given with
  | .int (.ofNat n) => .ok n
  | _ => Fault.raise (.length given)

def ofValues {ν : Type} [Scale ν] (length budget : Value) : Except Fault ν := do
  let length ← lengthOf length
  let typos ← Budget.ofValue budget
  ofLength length typos

end Cutoff

instance : Scale Binary64 where
  ofNat n := (Binary64.ofInt? n).elim (.error .tooLarge) .ok
  zero := 0
  one := 1
  survivors n k := ((n + 2 - 3 * k) / (n + 2)).clampBelow
  keeping lost total := (1 - Binary64.ofNat lost / Binary64.ofNat total) * 100 / 100
  percent lost total := (100 - 100 * Binary64.ofNat lost / Binary64.ofNat total) / 100
  atLeast x y := y.atMost x

instance : Scale Rat where
  ofNat n := .ok n
  zero := 0
  one := 1
  survivors n k :=
    let left := (n + 2 - 3 * k) / (n + 2)
    if 0 ≤ left then left else 0
  keeping lost total := 1 - (lost : Rat) / total
  percent lost total := 1 - (lost : Rat) / total
  atLeast x y := y ≤ x

end TypoSearch
