import TypoSearch.Json.Text
import TypoSearch.Value.Display

/-! JSON documents from values, on one line or indented by two blanks a level. Empty containers stay
on their line. -/
namespace TypoSearch.Json

def textOf (s : String) : String := String.ofList (textChars s.toList)

def floatText : Number.Binary64 → String
  | .nan => "NaN"
  | .infinite negative => if negative then "-Infinity" else "Infinity"
  | x => x.shown

def boolText (b : Bool) : String := if b then "true" else "false"

def keyText : Key → String
  | .null => "null"
  | .bool b => boolText b
  | .int i => toString i
  | .float x => floatText x
  | .text s => s
  | .moment s => s

structure Spacing where
  lineBreak : Nat → String
  afterKey : String

def Spacing.none : Spacing := ⟨fun _ => "", ":"⟩

def Spacing.indented : Spacing := ⟨fun depth => "\n" ++ "".pushn ' ' (2 * depth), ": "⟩

def enclosed (sp : Spacing) (depth : Nat) (opening closing : String) (parts : List String) : String :=
  if parts.isEmpty then opening ++ closing
  else opening ++ sp.lineBreak (depth + 1) ++ ("," ++ sp.lineBreak (depth + 1)).intercalate parts ++
    sp.lineBreak depth ++ closing

mutual

def document (sp : Spacing) (depth : Nat) : Value → String
  | .null => "null"
  | .bool b => boolText b
  | .int i => toString i
  | .float x => floatText x
  | .text s => textOf s
  | .moment s => textOf s
  | .list xs => enclosed sp depth "[" "]" (itemTexts sp (depth + 1) xs)
  | .dict es => enclosed sp depth "\x7b" "\x7d" (entryTexts sp (depth + 1) es)

def itemTexts (sp : Spacing) (depth : Nat) : List Value → List String
  | [] => []
  | x :: xs => document sp depth x :: itemTexts sp depth xs

def entryTexts (sp : Spacing) (depth : Nat) : List (Key × Value) → List String
  | [] => []
  | (k, x) :: es =>
    (textOf (keyText k) ++ sp.afterKey ++ document sp depth x) :: entryTexts sp depth es

end

def compact (v : Value) : String := document .none 0 v

def indented (v : Value) : String := document .indented 0 v

end TypoSearch.Json
