import TypoSearch.Text.Blank
import TypoSearch.Similarity.Share

/-! Similarity of the word sets of two texts. The words in common count as found; the remaining words
of both sides, sorted and joined by single blanks, are compared as texts. A text of narrow
characters alone is read in a narrow character set, whose upper half knows no blanks: its next
line and its no-break space are letters of a word. -/
namespace TypoSearch.Similarity

def isNarrow (c : Char) : Bool := c.toNat < 0x100

def isCommonBlank (c : Char) : Bool := Text.isBlank c && c.toNat < 0x80

def separator (cs : List Char) : Char → Bool := if cs.all isNarrow then isCommonBlank else Text.isBlank

def tokens (cs : List Char) : List (List Char) := (Text.wordsBy (separator cs) cs).eraseDups

def sortedTokens (ws : List (List Char)) : List (List Char) :=
  ws.mergeSort fun a b => !b.lex a fun x y => x.toNat < y.toNat

def joinTokens (ws : List (List Char)) : List Char := [' '].intercalate ws

def shareOf (lost total : Nat) : Share := if total = 0 then .everything else ⟨lost, total⟩

def tokenSetShare (as bs : List Char) : Share :=
  let ta := tokens as
  let tb := tokens bs
  let common := ta.filter tb.contains
  let restA := ta.filter fun w => !tb.contains w
  let restB := tb.filter fun w => !ta.contains w
  if ta.isEmpty || tb.isEmpty then .nothing
  else if !common.isEmpty && (restA.isEmpty || restB.isEmpty) then .everything
  else
    let da := joinTokens (sortedTokens restA)
    let db := joinTokens (sortedTokens restB)
    let found := (joinTokens common).length
    let gap := if found = 0 then 0 else 1
    let sizeA := found + gap + da.length
    let sizeB := found + gap + db.length
    let whole := shareOf (indel da db) (sizeA + sizeB)
    if found = 0 then whole
    else
      (whole.max (shareOf (gap + da.length) (found + sizeA))).max
        (shareOf (gap + db.length) (found + sizeB))

end TypoSearch.Similarity
