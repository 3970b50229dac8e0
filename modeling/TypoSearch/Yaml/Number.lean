import TypoSearch.Fault
import TypoSearch.Text.Case
import TypoSearch.Yaml.Digit

/-! Numbers of scalars. A tag may promise a number where the text is none, so reading has causes of
failure of its own. A colon joins parts in base sixty. -/
namespace TypoSearch.Yaml
open Number (Binary64)

def wholeIn (base : Nat) (cs : List Char) : Except Fault Int :=
  match Number.readIntIn base (String.ofList cs) with
  | .ok i => .ok i
  | .error .unreadable => .error (.unreadableInt base (String.ofList cs))
  | .error (.tooLong digits) => .error (.tooManyDigits digits Number.mostDigits)

def realOf (cs : List Char) : Except Fault Binary64 :=
  match Number.readBinary64? (String.ofList cs) with
  | some x => .ok x
  | none => .error (.unreadableNumber (String.ofList cs))

def signed (cs : List Char) : Except Fault (Bool × List Char) :=
  let cs := withoutUnderscores cs
  if cs.isEmpty then .error .emptyNumber else .ok (Number.takeSign cs)

def sixties (parts : List Int) : Int := parts.foldl (fun n d => 60 * n + d) 0

def magnitude (cs : List Char) : Except Fault Int :=
  match cs with
  | [] => .error .emptyNumber
  | ['0'] => .ok 0
  | '0' :: 'b' :: ds => wholeIn 2 ds
  | '0' :: 'x' :: ds => wholeIn 16 ds
  | '0' :: _ => wholeIn 8 cs
  | _ => if cs.contains ':' then do return sixties (← (splitAt ':' cs).mapM (wholeIn 10)) else wholeIn 10 cs

def intOf (s : String) : Except Fault Int := do
  let (negative, cs) ← signed s.toList
  let n ← magnitude cs
  return if negative then -n else n

def sixtySum (parts : List Binary64) : Except Fault Binary64 := do
  let weighted ← parts.reverse.zipIdx.mapM fun p => do
    match Binary64.ofInt? (Nat.pow 60 p.2) with
    | some weight => return p.1 * weight
    | none => .error .tooLarge
  return weighted.foldl (fun total x => total + x) 0

def realMagnitude (cs : List Char) : Except Fault Binary64 :=
  if cs = ".inf".toList then .ok (.infinite false)
  else if cs = ".nan".toList then .ok .nan
  else if cs.contains ':' then do sixtySum (← (splitAt ':' cs).mapM realOf)
  else realOf cs

def floatOf (s : String) : Except Fault Binary64 := do
  let (negative, cs) ← signed (Text.lowerChars (withoutUnderscores s.toList))
  let x ← realMagnitude cs
  return if negative then -x else x

def trueWords : List String := ["yes", "true", "on"]

def falseWords : List String := ["no", "false", "off"]

def boolOf (s : String) : Except Fault Bool :=
  let word := Text.lower s
  if trueWords.contains word then .ok true
  else if falseWords.contains word then .ok false
  else .error (.truthWord word)

end TypoSearch.Yaml
