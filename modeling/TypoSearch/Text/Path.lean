import TypoSearch.Text.Blank

/-! Paths as sequences of names. Empty and current directories are left out. -/
namespace TypoSearch.Text

def holdsNull (path : String) : Bool := path.toList.contains '\x00'

def pathParts (path : String) : List String :=
  ((wordsBy (· == '/') path.toList).map String.ofList).filter (· != ".")

def isRooted (path : String) : Bool := path.toList.head? == some '/'

def rootOf (path : String) : String := if isRooted path then "/" else ""

def joinPath (path : String) (names : List String) : String :=
  rootOf path ++ "/".intercalate (pathParts path ++ names)

def directoryOf (path : String) : String := rootOf path ++ "/".intercalate (pathParts path).dropLast

def ancestors (path : String) : List String :=
  let parts := pathParts path
  (List.range' 1 (parts.length - 1)).map fun n => rootOf path ++ "/".intercalate (parts.take n)

def normalPath (path : String) : String :=
  match joinPath path [] with
  | "" => "."
  | p => p

def parentName : String := ".."

def follow (taken : List String) : List String → Option (List String)
  | [] => some taken.reverse
  | p :: ps =>
    if p = parentName then
      match taken with
      | _ :: above => follow above ps
      | [] => none
    else follow (p :: taken) ps

def placeOf? (path : String) : Option (List String) :=
  if isRooted path then none else follow [] (pathParts path)

end TypoSearch.Text
