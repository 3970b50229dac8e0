import TypoSearch.Number.Digits

/-! Days, and moments by their standard spelling: a date, or a date and a clock time, with the fraction of a second
and the zone where there is one. Moments with a zone are compared by the instant that they name. -/
namespace TypoSearch.Calendar

def isLeapYear (year : Nat) : Bool := year % 4 == 0 && (year % 100 != 0 || year % 400 == 0)

def monthLengths : List Nat := [31, 28, 31, 30, 31, 30, 31, 31, 30, 31, 30, 31]

def daysInMonth (year month : Nat) : Nat :=
  if month = 2 && isLeapYear year then 29 else monthLengths.getD (month - 1) 0

def dayNumber (year month day : Nat) : Nat :=
  let before := year - 1
  365 * before + before / 4 - before / 100 + before / 400 +
    ((List.range' 1 (month - 1)).map (daysInMonth year)).foldl (· + ·) 0 + day

def numberAt (cs : List Char) (place width : Nat) : Nat :=
  Number.ofDigits (((cs.drop place).take width).filterMap Number.plainDigitOf?)

def isDate (cs : List Char) : Bool := cs.length == 10

def microseconds (cs : List Char) : Nat := if cs[19]? = some '.' then numberAt cs 20 6 else 0

def zone? (cs : List Char) : Option Int :=
  let place := cs.length - 6
  let minutes : Int := 60 * numberAt cs (place + 1) 2 + numberAt cs (place + 4) 2
  if cs.length = 25 || cs.length = 32 then some (if cs[place]? = some '-' then -minutes else minutes) else none

def instant? (spelling : String) : Option Int :=
  let cs := spelling.toList
  let hours := 24 * dayNumber (numberAt cs 0 4) (numberAt cs 5 2) (numberAt cs 8 2) + numberAt cs 11 2
  (zone? cs).map fun ahead =>
    1000000 * (60 * (60 * hours + numberAt cs 14 2 - ahead) + numberAt cs 17 2) + microseconds cs

def secondsInDay : Int := 86400

def named (name : String) (n : Int) : List String := if n = 0 then [] else [name ++ "=" ++ toString n]

def spanText (seconds : Int) : String :=
  "datetime.timedelta(" ++
    ", ".intercalate (named "days" (seconds.fdiv secondsInDay) ++ named "seconds" (seconds.fmod secondsInDay)) ++
    ")"

def zoneText (minutes : Int) : String :=
  if minutes = 0 then "datetime.timezone.utc" else "datetime.timezone(" ++ spanText (60 * minutes) ++ ")"

def clockParts (cs : List Char) : List Nat :=
  let second := numberAt cs 17 2
  [numberAt cs 11 2, numberAt cs 14 2] ++
    (if microseconds cs ≠ 0 then [second, microseconds cs] else if second ≠ 0 then [second] else [])

def shown (spelling : String) : String :=
  let cs := spelling.toList
  let date := [numberAt cs 0 4, numberAt cs 5 2, numberAt cs 8 2].map toString
  if isDate cs then "datetime.date(" ++ ", ".intercalate date ++ ")"
  else
    "datetime.datetime(" ++ ", ".intercalate (date ++ (clockParts cs).map toString ++
      ((zone? cs).map fun z => "tzinfo=" ++ zoneText z).toList) ++ ")"

end TypoSearch.Calendar
