import TypoSearch.Cutoff
import TypoSearch.Similarity.Subsequence

/-! A similarity as an exact fraction: how many of the characters of two texts are lost on the way
from one to the other. -/
namespace TypoSearch.Similarity

structure Share where
  lost : Nat
  total : Nat
  deriving DecidableEq, Repr

namespace Share

def nothing : Share := ⟨1, 1⟩

def everything : Share := ⟨0, 1⟩

def below (a b : Share) : Bool := b.lost * a.total < a.lost * b.total

def max (a b : Share) : Share := if a.below b then b else a

def best (shares : List Share) : Share := shares.foldl max nothing

def ofTexts (as bs : List Char) : Share := ⟨indel as bs, as.length + bs.length⟩

end Share
end TypoSearch.Similarity
