import TypoSearch.Text.Case
import TypoSearch.Similarity.Window
import TypoSearch.Similarity.TokenSet

/-! The named measures of similarity. Case is ignored and an empty text resembles nothing. -/
namespace TypoSearch.Similarity

inductive Measure where
  | partialRatio
  | ratio
  | tokenSetRatio
  deriving DecidableEq, Repr

abbrev Scorer (ν : Type) := String → String → ν

namespace Measure

def all : List Measure := [partialRatio, ratio, tokenSetRatio]

def name : Measure → String
  | partialRatio => "partial_ratio"
  | ratio => "ratio"
  | tokenSetRatio => "token_set_ratio"

def ofName? (s : String) : Option Measure := all.find? (·.name == s)

def share : Measure → List Char → List Char → Share
  | partialRatio, as, bs => bestAlignment as bs
  | ratio, as, bs => Share.ofTexts as bs
  | tokenSetRatio, as, bs => tokenSetShare as bs

variable {ν : Type} [Scale ν]

def number : Measure → Share → ν
  | tokenSetRatio, s => Scale.percent s.lost s.total
  | _, s => Scale.keeping s.lost s.total

def scorer (m : Measure) : Scorer ν := fun pattern target =>
  if pattern.isEmpty || target.isEmpty then Scale.zero
  else m.number (m.share (Text.lowerChars pattern.toList) (Text.lowerChars target.toList))

def engine : String := "rapidfuzz"

def names : List String := all.map name

def sortedNames : List String := names.mergeSort fun a b => a ≤ b

def ofValue (given : Value) : Except Fault Measure :=
  match given.key? with
  | none => .error (.unhashable given.kindName)
  | some (.text s) => match ofName? s with
    | some m => .ok m
    | none => Fault.raise (.scorer given)
  | some _ => Fault.raise (.scorer given)

def ofMethod (given : Value) : Except Fault Measure :=
  match given.key? with
  | none => .error (.unhashable given.kindName)
  | some (.text s) => match ofName? s with
    | some m => .ok m
    | none => Fault.raise (.measure given sortedNames)
  | some _ => Fault.raise (.measure given sortedNames)

end Measure

end TypoSearch.Similarity
