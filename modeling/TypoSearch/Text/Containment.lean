import TypoSearch.Text.Case

/-! Containment of one text in another. -/
namespace TypoSearch.Text

def occursIn (pattern : List Char) : List Char → Bool
  | [] => pattern.isEmpty
  | c :: cs => pattern.isPrefixOf (c :: cs) || occursIn pattern cs

def containsIgnoringCase (target pattern : String) : Bool :=
  occursIn (lowerChars pattern.toList) (lowerChars target.toList)

end TypoSearch.Text
