import TypoSearch.Sql.Keyword
import TypoSearch.Text.LineEnd

/-! Names and literals inside a statement. Inside quotes the quote is written twice; a literal with a
backslash takes the escaping form where the engine has one. -/
namespace TypoSearch.Sql

def doubled (q : Char) (cs : List Char) : List Char := cs.flatMap fun c => if c = q then [c, c] else [c]

def enclose (q : Char) (cs : List Char) : List Char := q :: doubled q cs ++ [q]

def isLower (c : Char) : Bool := 'a' ≤ c && c ≤ 'z'

def isUpper (c : Char) : Bool := 'A' ≤ c && c ≤ 'Z'

def isDigit (c : Char) : Bool := '0' ≤ c && c ≤ '9'

def startsBare (c : Char) : Bool := isLower c || c = '_'

def continuesBare (c : Char) : Bool := startsBare c || isDigit c

def startsName (c : Char) : Bool := isLower c || isUpper c || c = '_'

def continuesName (c : Char) : Bool := startsName c || isDigit c

def isWord (starts continues : Char → Bool) : List Char → Bool
  | [] => false
  | c :: cs => starts c && cs.all continues

def standsBare (cs : List Char) : Bool :=
  isWord startsBare continuesBare (Text.dropLineEnd cs) && !keywords.contains (String.ofList cs)

def isFunctionName (s : String) : Bool :=
  let cs := Text.dropLineEnd s.toList
  let first := cs.takeWhile (· != '.')
  match cs.dropWhile (· != '.') with
  | [] => isWord startsName continuesName first
  | _ :: second => isWord startsName continuesName first && isWord startsName continuesName second

inductive Quoting where
  | sparing
  | plain
  deriving DecidableEq, Repr

namespace Quoting

def identifierChars : Quoting → List Char → List Char
  | sparing, cs => if standsBare cs then cs else enclose '"' cs
  | plain, cs => enclose '"' cs

def literalChars : Quoting → List Char → List Char
  | sparing, cs =>
    if cs.contains '\\' then 'E' :: '\'' :: doubled '\\' (doubled '\'' cs) ++ ['\'']
    else enclose '\'' cs
  | plain, cs => enclose '\'' cs

def identifier (q : Quoting) (s : String) : String := String.ofList (q.identifierChars s.toList)

def literal (q : Quoting) (s : String) : String := String.ofList (q.literalChars s.toList)

end Quoting

def likeEscape : Char := '\\'

def isLikeSpecial (c : Char) : Bool := c = likeEscape || c = '%' || c = '_'

def escapeLike (cs : List Char) : List Char :=
  cs.flatMap fun c => if isLikeSpecial c then [likeEscape, c] else [c]

def likePattern (cs : List Char) : List Char := '%' :: escapeLike cs ++ ['%']

end TypoSearch.Sql
