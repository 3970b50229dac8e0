/-! The line break that may end a text without being part of it. -/
namespace TypoSearch.Text

def dropLineEnd (cs : List Char) : List Char := if cs.getLast? = some '\n' then cs.dropLast else cs

end TypoSearch.Text
