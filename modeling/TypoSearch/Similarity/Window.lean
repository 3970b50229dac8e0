import TypoSearch.Similarity.Share

/-! The parts of a longer text that a shorter one is aligned with: its shorter beginnings, the parts
as long as the shorter text, and its endings. A part whose outer character is foreign to the
shorter text is passed over. -/
namespace TypoSearch.Similarity

def beginnings (size : Nat) (long : List Char) : List (List Char) :=
  (List.range' 1 (size - 1)).map long.take

def slides (size : Nat) (long : List Char) : List (List Char) :=
  (List.range (long.length - size)).map fun i => (long.drop i).take size

def endings (size : Nat) (long : List Char) : List (List Char) :=
  (List.range' (long.length - size) size).map long.drop

def endsWithin (short part : List Char) : Bool := part.getLast?.any short.contains

def startsWithin (short part : List Char) : Bool := part.head?.any short.contains

def windows (short long : List Char) : List (List Char) :=
  (beginnings short.length long ++ slides short.length long).filter (endsWithin short) ++
  (endings short.length long).filter (startsWithin short)

def bestWindow (short long : List Char) : Share :=
  Share.best ((windows short long).map (Share.ofTexts short))

def bestAlignment (as bs : List Char) : Share :=
  if as.length < bs.length then bestWindow as bs
  else if bs.length < as.length then bestWindow bs as
  else (bestWindow as bs).max (bestWindow bs as)

end TypoSearch.Similarity
