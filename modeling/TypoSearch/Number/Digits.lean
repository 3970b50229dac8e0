/-! Decimal digits, the digits of a natural number and the number of a digit sequence. A character
reads as a digit in any of the scripts that have ten digits in a row. -/
namespace TypoSearch.Number

abbrev Digit := Fin 10

def Digit.char (d : Digit) : Char := Char.ofNat (0x30 + d.val)

def digitChars (ds : List Digit) : List Char := ds.map Digit.char

def digits (n : Nat) : List Digit :=
  if n < 10 then [Fin.ofNat 10 n] else digits (n / 10) ++ [Fin.ofNat 10 n]

def ofDigits (ds : List Digit) : Nat := ds.foldl (fun n d => 10 * n + d.val) 0

/-- Decimal integers with more digits are neither read nor written. -/
def mostDigits : Nat := 4300

def isWritable (i : Int) : Bool := i.natAbs < Nat.pow 10 mostDigits

def zeros (n : Nat) : List Digit := List.replicate n 0

def scriptZeros : List Nat := [
  0x30, 0x660, 0x6F0, 0x7C0, 0x966, 0x9E6, 0xA66, 0xAE6, 0xB66, 0xBE6, 0xC66, 0xCE6, 0xD66, 0xDE6,
  0xE50, 0xED0, 0xF20, 0x1040, 0x1090, 0x17E0, 0x1810, 0x1946, 0x19D0, 0x1A80, 0x1A90, 0x1B50,
  0x1BB0, 0x1C40, 0x1C50, 0xA620, 0xA8D0, 0xA900, 0xA9D0, 0xA9F0, 0xAA50, 0xABF0, 0xFF10, 0x104A0,
  0x10D30, 0x11066, 0x110F0, 0x11136, 0x111D0, 0x112F0, 0x11450, 0x114D0, 0x11650, 0x116C0, 0x11730,
  0x118E0, 0x11950, 0x11C50, 0x11D50, 0x11DA0, 0x16A60, 0x16AC0, 0x16B50, 0x1D7CE, 0x1D7D8, 0x1D7E2,
  0x1D7EC, 0x1D7F6, 0x1E140, 0x1E2F0, 0x1E950, 0x1FBF0]

def digitOf? (c : Char) : Option Digit :=
  (scriptZeros.find? fun z => z ≤ c.toNat && c.toNat < z + 10).map fun z => Fin.ofNat 10 (c.toNat - z)

def plainDigitOf? (c : Char) : Option Digit :=
  if '0' ≤ c && c ≤ '9' then some (Fin.ofNat 10 (c.toNat - 0x30)) else none

theorem ofDigitsSnoc (ds : List Digit) (d : Digit) :
    ofDigits (ds ++ [d]) = 10 * ofDigits ds + d.val := by simp [ofDigits]

theorem ofDigitsDigits (n : Nat) : ofDigits (digits n) = n := by
  fun_induction digits n with
  | case1 n h => simp [ofDigits, Fin.ofNat]; omega
  | case2 n h ih => rw [ofDigitsSnoc, ih]; simp [Fin.ofNat]; omega

end TypoSearch.Number
