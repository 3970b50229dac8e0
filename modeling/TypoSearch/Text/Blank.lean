/-! Blank characters and the words between them. A word is a maximal run of other characters, so no
word is empty and order and repeats are kept. What parts words is left open, since not every
reader of words takes all blanks for separators. -/
namespace TypoSearch.Text

def isBlank (c : Char) : Bool :=
  let n := c.toNat
  (0x09 ≤ n && n ≤ 0x0D) || (0x1C ≤ n && n ≤ 0x20) || n == 0x85 || n == 0xA0 || n == 0x1680 ||
  (0x2000 ≤ n && n ≤ 0x200A) || n == 0x2028 || n == 0x2029 || n == 0x202F || n == 0x205F || n == 0x3000

def pushWord (parts : Char → Bool) (c : Char) (following : List Char) (ws : List (List Char)) :
    List (List Char) :=
  match following.head?, ws with
  | some d, w :: rest => if parts d then [c] :: w :: rest else (c :: w) :: rest
  | _, _ => [c] :: ws

def wordsBy (parts : Char → Bool) : List Char → List (List Char)
  | [] => []
  | c :: cs => if parts c then wordsBy parts cs else pushWord parts c cs (wordsBy parts cs)

def words (cs : List Char) : List (List Char) := wordsBy isBlank cs

def trimLeft (cs : List Char) : List Char := cs.dropWhile isBlank

def trimRight (cs : List Char) : List Char := (cs.reverse.dropWhile isBlank).reverse

def trim (cs : List Char) : List Char := trimRight (trimLeft cs)

end TypoSearch.Text
