import TypoSearch.Text.Printable
import TypoSearch.Number.Numeral
import TypoSearch.Value

/-! How a value is written inside a message. Text is quoted inside another value and stands bare
when it is the whole. -/
namespace TypoSearch

def boolName (b : Bool) : String := if b then "True" else "False"

def commaSeparated (parts : List String) : String := ", ".intercalate parts

def Key.shown : Key → String
  | null => "None"
  | bool b => boolName b
  | int i => toString i
  | float x => x.shown
  | text s => Text.quoted s
  | moment s => Calendar.shown s

def Key.isWritable : Key → Bool
  | int i => Number.isWritable i
  | _ => true

namespace Value

mutual

def shown : Value → String
  | null => "None"
  | bool b => boolName b
  | int i => toString i
  | float x => x.shown
  | text s => Text.quoted s
  | moment s => Calendar.shown s
  | list xs => "[" ++ commaSeparated (shownItems xs) ++ "]"
  | dict es => "\x7b" ++ commaSeparated (shownEntries es) ++ "\x7d"

def shownItems : List Value → List String
  | [] => []
  | x :: xs => x.shown :: shownItems xs

def shownEntries : List (Key × Value) → List String
  | [] => []
  | (k, x) :: es => (k.shown ++ ": " ++ x.shown) :: shownEntries es

end

def plain : Value → String
  | text s => s
  | moment s => s
  | v => v.shown

mutual

def isWritable : Value → Bool
  | int i => Number.isWritable i
  | list xs => areWritable xs
  | dict es => haveWritable es
  | _ => true

def areWritable : List Value → Bool
  | [] => true
  | x :: xs => x.isWritable && areWritable xs

def haveWritable : List (Key × Value) → Bool
  | [] => true
  | (k, x) :: es => k.isWritable && x.isWritable && haveWritable es

end

end Value

def shownTexts (ss : List String) : String := (Value.texts ss).shown

end TypoSearch
