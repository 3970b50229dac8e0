/-! The length of a longest common subsequence of two texts, from a table with one row per suffix of
the first and one entry per suffix of the second. -/
namespace TypoSearch.Similarity

def extendRow (a : Char) : List Char → List Nat → List Nat
  | b :: bs, here :: rest =>
    let row := extendRow a bs rest
    (if a = b then rest.headD 0 + 1 else max here (row.headD 0)) :: row
  | _, _ => [0]

def subsequenceRow (as bs : List Char) : List Nat :=
  as.foldr (fun a row => extendRow a bs row) (List.replicate (bs.length + 1) 0)

def subsequence (as bs : List Char) : Nat := (subsequenceRow as bs).headD 0

def indel (as bs : List Char) : Nat := as.length + bs.length - 2 * subsequence as bs

end TypoSearch.Similarity
