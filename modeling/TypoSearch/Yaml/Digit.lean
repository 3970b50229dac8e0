import TypoSearch.Number.Reading

/-! Digits and separators in the shapes of scalars. Only the ten plain digits count here, and six
letters in base sixteen. -/
namespace TypoSearch.Yaml

def plainDigit? (c : Char) : Option Nat := if c.toNat < 0x80 then Number.digitValue? c else none

def isDigitIn (base : Nat) (c : Char) : Bool := (plainDigit? c).any (· < base)

def isDecimal (c : Char) : Bool := isDigitIn 10 c

def digitOrUnderscore (base : Nat) (c : Char) : Bool := isDigitIn base c || c = '_'

def naturalOf (cs : List Char) : Nat := Number.ofDigitsIn 10 (cs.filterMap plainDigit?)

def splitAt (c : Char) (cs : List Char) : List (List Char) :=
  cs.foldr (fun d pieces => match pieces with
    | p :: ps => if d = c then [] :: p :: ps else (d :: p) :: ps
    | [] => [[d]]) [[]]

def isSixtieth : List Char → Bool
  | [a] => isDecimal a
  | [a, b] => isDigitIn 6 a && isDecimal b
  | _ => false

def startsDecimal : List Char → Bool
  | c :: cs => isDecimal c && cs.all (digitOrUnderscore 10)
  | [] => false

def withoutUnderscores (cs : List Char) : List Char := cs.filter (· != '_')

end TypoSearch.Yaml
