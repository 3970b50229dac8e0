import TypoSearch.Text.CaseTable

/-! Full lower and upper case of a text. A character's form depends on itself alone, except that a
capital sigma ending a word lowers to the final letter. -/
namespace TypoSearch.Text

def inRanges (ranges : List (Nat × Nat)) (n : Nat) : Bool := ranges.any fun r => r.1 ≤ n && n ≤ r.2

def Shift.covers (s : Shift) (n : Nat) : Bool :=
  s.first ≤ n && n ≤ s.last && (n - s.first) % s.stride == 0

def Shift.apply (s : Shift) (n : Nat) : Char := Char.ofNat (n + s.amount).toNat

def mapped (expansions : List Expansion) (shifts : List Shift) (c : Char) : List Char :=
  let n := c.toNat
  match expansions.find? (·.source == n) with
  | some e => e.target.map Char.ofNat
  | none => match shifts.find? (·.covers n) with
    | some s => [s.apply n]
    | none => [c]

def lowerChar (c : Char) : List Char := mapped lowerExpansions lowerShifts c

def upperChar (c : Char) : List Char := mapped upperExpansions upperShifts c

def meetsLetter (cs : List Char) : Bool :=
  match cs.dropWhile fun c => inRanges ignorableRanges c.toNat with
  | c :: _ => inRanges casedRanges c.toNat
  | [] => false

def capitalSigma : Char := 'Σ'

def lowerSigma (before after : List Char) : Char :=
  if meetsLetter before && !meetsLetter after then 'ς' else 'σ'

def lowerAfter (before : List Char) : List Char → List Char
  | [] => []
  | c :: cs =>
    (if c = capitalSigma then [lowerSigma before cs] else lowerChar c) ++ lowerAfter (c :: before) cs

def lowerChars (cs : List Char) : List Char := lowerAfter [] cs

def lower (s : String) : String := String.ofList (lowerChars s.toList)

def upper (s : String) : String := String.ofList (s.toList.flatMap upperChar)

theorem lowerToList (s : String) : (lower s).toList = lowerChars s.toList := String.toList_ofList

end TypoSearch.Text
