import TypoSearch.Calendar
import TypoSearch.Fault
import TypoSearch.Yaml.Cursor
import TypoSearch.Yaml.Digit

/-! Dates and times. A scalar may be written as a date, with a clock time behind it and a zone behind
that; it names a moment if every part is in its range. -/
namespace TypoSearch.Yaml

structure Clock where
  hour : Nat
  minute : Nat
  second : Nat
  microsecond : Nat
  zone : Option Int
  deriving DecidableEq, Repr

structure Moment where
  year : Nat
  month : Nat
  day : Nat
  clock : Option Clock
  deriving DecidableEq, Repr

namespace Moment

def number? (least most : Nat) (cs : List Char) : Option (Nat × List Char) :=
  let ds := (cs.take most).takeWhile isDecimal
  if ds.length < least then none else some (naturalOf ds, cs.drop ds.length)

def behind? (c : Char) : List Char → Option (List Char)
  | d :: cs => if d = c then some cs else none
  | [] => none

def fraction : List Char → Nat × List Char
  | '.' :: cs =>
    let ds := cs.takeWhile isDecimal
    (naturalOf ((ds ++ List.replicate 6 '0').take 6), cs.drop ds.length)
  | cs => (0, cs)

def zoneMinutes? : List Char → Option Nat
  | [] => some 0
  | cs => do
    let (minutes, rest) ← number? 2 2 (← behind? ':' cs)
    if rest.isEmpty then some minutes else none

def zone? (cs : List Char) : Option (Option Int) :=
  if cs.isEmpty then some none
  else match cs.dropWhile isBlank with
  | ['Z'] => some (some 0)
  | sign :: rest =>
    if sign = '+' || sign = '-' then do
      let (hours, rest) ← number? 1 2 rest
      let minutes := 60 * hours + (← zoneMinutes? rest)
      return some (if sign = '-' then -(minutes : Int) else minutes)
    else none
  | [] => none

def gap? : List Char → Option (List Char)
  | c :: cs =>
    if c = 'T' || c = 't' then some cs
    else if isBlank c then some (cs.dropWhile isBlank)
    else none
  | [] => none

def clock? (cs : List Char) : Option Clock := do
  let (hour, cs) ← number? 1 2 cs
  let (minute, cs) ← number? 2 2 (← behind? ':' cs)
  let (second, cs) ← number? 2 2 (← behind? ':' cs)
  let (microsecond, cs) := fraction cs
  return ⟨hour, minute, second, microsecond, ← zone? cs⟩

def ofChars? (cs : List Char) : Option Moment := do
  let (year, cs) ← number? 4 4 cs
  let (month, cs) ← number? 1 2 (← behind? '-' cs)
  let (day, cs) ← number? 1 2 (← behind? '-' cs)
  if cs.isEmpty then return ⟨year, month, day, none⟩
  else return ⟨year, month, day, some (← clock? (← gap? cs))⟩

def isWritten (cs : List Char) : Bool :=
  match ofChars? cs with
  | some m => m.clock.isSome || cs.length == 10
  | none => false

def minutesInDay : Nat := 1440

def checkZone (zone : Option Int) : Except Fault Unit :=
  match zone with
  | some z => if z.natAbs < minutesInDay then .ok () else .error (.zoneOffset (60 * z))
  | none => .ok ()

def checkDate (m : Moment) : Except Fault Unit :=
  if m.year = 0 then .error (.year m.year)
  else if m.month = 0 || 12 < m.month then .error (.momentPart "month" "1..12")
  else if m.day = 0 || Calendar.daysInMonth m.year m.month < m.day then .error .monthDay
  else .ok ()

def checkClock (c : Clock) : Except Fault Unit :=
  if 23 < c.hour then .error (.momentPart "hour" "0..23")
  else if 59 < c.minute then .error (.momentPart "minute" "0..59")
  else if 59 < c.second then .error (.momentPart "second" "0..59")
  else .ok ()

def check (m : Moment) : Except Fault Unit := do
  match m.clock with
  | none => checkDate m
  | some c =>
    checkZone c.zone
    checkDate m
    checkClock c

def padded (width n : Nat) : String :=
  let ds := Number.digitChars (Number.digits n)
  String.ofList (List.replicate (width - ds.length) '0' ++ ds)

def zoneText : Option Int → String
  | none => ""
  | some z => (if z < 0 then "-" else "+") ++ padded 2 (z.natAbs / 60) ++ ":" ++ padded 2 (z.natAbs % 60)

def clockText (c : Clock) : String :=
  " " ++ padded 2 c.hour ++ ":" ++ padded 2 c.minute ++ ":" ++ padded 2 c.second ++
    (if c.microsecond = 0 then "" else "." ++ padded 6 c.microsecond) ++ zoneText c.zone

def text (m : Moment) : String :=
  padded 4 m.year ++ "-" ++ padded 2 m.month ++ "-" ++ padded 2 m.day ++ (m.clock.map clockText).getD ""

end Moment
end TypoSearch.Yaml
