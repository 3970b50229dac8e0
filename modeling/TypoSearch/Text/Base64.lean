/-! Bytes written in base 64. Characters outside the alphabet are passed over; four letters make three
bytes, and a padded end makes fewer. -/
namespace TypoSearch.Text

def base64Value? (c : Char) : Option Nat :=
  let n := c.toNat
  if 'A' ≤ c && c ≤ 'Z' then some (n - 0x41)
  else if 'a' ≤ c && c ≤ 'z' then some (n - 0x47)
  else if '0' ≤ c && c ≤ '9' then some (n + 4)
  else if c = '+' then some 62
  else if c = '/' then some 63
  else none

def base64Byte (place before value : Nat) : List UInt8 :=
  match place with
  | 0 => []
  | 1 => [(before * 4 + value / 16).toUInt8]
  | 2 => [(before % 16 * 16 + value / 4).toUInt8]
  | _ => [(before % 4 * 64 + value).toUInt8]

def decodeBase64From? (place before padding : Nat) : List Char → Option (List UInt8)
  | [] => if place = 0 then some [] else none
  | c :: cs =>
    if c = '=' then
      if 2 ≤ place && 4 ≤ place + padding + 1 then some []
      else decodeBase64From? place before (if 2 ≤ place then padding + 1 else padding) cs
    else match base64Value? c with
    | none => decodeBase64From? place before padding cs
    | some v => do
      let bytes ← decodeBase64From? ((place + 1) % 4) v 0 cs
      return base64Byte place before v ++ bytes

def decodeBase64? (cs : List Char) : Option (List UInt8) :=
  if cs.all fun c => c.toNat < 0x80 then decodeBase64From? 0 0 0 cs else none

end TypoSearch.Text
