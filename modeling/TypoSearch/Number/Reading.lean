import TypoSearch.Text.Blank
import TypoSearch.Number.Digits
import TypoSearch.Number.Binary64

/-! Numbers read from text. Blanks may surround a number and single underscores may stand between
its digits; digits of any script count. An integer may be written in another base, and a decimal
one has a limit on its length. -/
namespace TypoSearch.Number

/-- The four separators among the control characters do not surround numbers. -/
def surroundsNumber (c : Char) : Bool := Text.isBlank c && !(0x1C ≤ c.toNat && c.toNat ≤ 0x1F)

def trimNumber (cs : List Char) : List Char :=
  ((cs.dropWhile surroundsNumber).reverse.dropWhile surroundsNumber).reverse

/-- The digits at the front and the rest; `seen` holds after a digit, where an underscore that
leads to another digit is passed over. -/
def takeAfter {α : Type} (digit : Char → Option α) (seen : Bool) : List Char → List α × List Char
  | [] => ([], [])
  | c :: cs =>
    match digit c with
    | some d =>
      let (ds, rest) := takeAfter digit true cs
      (d :: ds, rest)
    | none =>
      if seen && c = '_' && (cs.head?.bind digit).isSome then takeAfter digit false cs
      else ([], c :: cs)

def takeDigits (cs : List Char) : List Digit × List Char := takeAfter digitOf? false cs

def takeSign : List Char → Bool × List Char
  | '-' :: cs => (true, cs)
  | '+' :: cs => (false, cs)
  | cs => (false, cs)

def digitValue? (c : Char) : Option Nat :=
  match digitOf? c with
  | some d => some d.val
  | none =>
    let n := c.toNat
    if 0x41 ≤ n && n ≤ 0x46 then some (n - 0x37)
    else if 0x61 ≤ n && n ≤ 0x66 then some (n - 0x57)
    else none

def digitIn? (base : Nat) (c : Char) : Option Nat := (digitValue? c).filter (· < base)

def baseMarks : List (Nat × Char) := [(2, 'b'), (8, 'o'), (16, 'x')]

def dropMark (base : Nat) : List Char → List Char
  | '0' :: c :: cs =>
    if baseMarks.contains (base, c.toLower) then (if cs.head? = some '_' then cs.tail else cs)
    else '0' :: c :: cs
  | cs => cs

def ofDigitsIn (base : Nat) (ds : List Nat) : Nat := ds.foldl (fun n d => base * n + d) 0

inductive IntFault where
  | unreadable
  | tooLong (digits : Nat)
  deriving DecidableEq, Repr

def readIntIn (base : Nat) (s : String) : Except IntFault Int :=
  let (negative, cs) := takeSign (trimNumber s.toList)
  let (ds, rest) := takeAfter (digitIn? base) false (dropMark base cs)
  if ds.isEmpty then .error .unreadable
  else if base = 10 && mostDigits < ds.length then .error (.tooLong ds.length)
  else if rest.isEmpty then .ok (if negative then -(ofDigitsIn base ds : Int) else ofDigitsIn base ds)
  else .error .unreadable

def readInt? (s : String) : Option Int := (readIntIn 10 s).toOption

def takeFraction : List Char → List Digit × List Char
  | '.' :: cs => takeDigits cs
  | cs => ([], cs)

def takeExponent? : List Char → Option Int
  | [] => some 0
  | c :: cs =>
    if c = 'e' || c = 'E' then
      let (negative, cs) := takeSign cs
      match takeDigits cs with
      | ([], _) => none
      | (ds, []) => some (if negative then -(ofDigits ds : Int) else ofDigits ds)
      | _ => none
    else none

def readDecimal? (negative : Bool) (cs : List Char) : Option Binary64 := do
  let (whole, rest) := takeDigits cs
  let (fraction, rest) := takeFraction rest
  let exponent ← takeExponent? rest
  if whole.isEmpty && fraction.isEmpty then none
  else some (Binary64.ofDecimal negative (ofDigits (whole ++ fraction)) (exponent - fraction.length))

def infinityWords : List (List Char) := ["inf".toList, "infinity".toList]

def readBinary64? (s : String) : Option Binary64 :=
  let (negative, cs) := takeSign (trimNumber s.toList)
  let word := cs.map Char.toLower
  if infinityWords.contains word then some (.infinite negative)
  else if word = "nan".toList then some .nan
  else readDecimal? negative cs

def numeral (s : String) : Binary64 := (readBinary64? s).getD .nan

end TypoSearch.Number
