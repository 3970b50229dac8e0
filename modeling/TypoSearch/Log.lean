import TypoSearch.Fault
import TypoSearch.Text.Case
import TypoSearch.Text.Path

/-! Log records, where they go and how they are written. A record passes the threshold of the logger
first and that of each destination then. -/
namespace TypoSearch

structure Record where
  level : Int
  text : String
  deriving DecidableEq, Repr

namespace Log

def debug : Int := 10
def info : Int := 20
def warning : Int := 30
def error : Int := 40
def critical : Int := 50

def levels : List (String × Int) :=
  [("DEBUG", debug), ("INFO", info), ("WARNING", warning), ("WARN", warning), ("ERROR", error),
   ("CRITICAL", critical), ("FATAL", critical), ("NOTSET", 0)]

def levelNamed (name : String) : Int :=
  (levels.lookup (Text.upper (if name.isEmpty then "INFO" else name))).getD info

/-- A name among those of the levels that stands for the layout of a line. -/
def layoutName : String := "BASIC_FORMAT"

def layout : String := "%(levelname)s:%(name)s:%(message)s"

def levelOf (given : Value) : Except Fault Int :=
  if given.isVoid then .ok info
  else match given with
  | .text name => if Text.upper name = layoutName then .error (.levelName layout) else .ok (levelNamed name)
  | v => .error (.noMethod v.kindName "upper")

def tag (level : Int) : String :=
  if level = debug then "DEBG"
  else if level = info then "INFO"
  else if level = warning then "WARN"
  else if level = error || level = critical then "ERRO"
  else if level = 0 then "NOTS"
  else "Leve"

def line (r : Record) : String := "[" ++ tag r.level ++ "] " ++ r.text

structure Setup where
  level : Int
  action : Option String
  toFile : Bool
  dir : String
  deriving DecidableEq, Repr

namespace Setup

def file? (s : Setup) : Option String :=
  if s.toFile then s.action.filter (!·.isEmpty) else none

def loggerLevel (s : Setup) : Int := if s.toFile then min debug s.level else s.level

/-- A level of zero leaves the decision to the root of all loggers. -/
def threshold (s : Setup) : Int := if s.loggerLevel = 0 then warning else s.loggerLevel

def destinations (s : Setup) : Nat := if s.file?.isSome then 2 else 1

def passing (s : Setup) (records : List Record) : List Record := records.filter (s.threshold ≤ ·.level)

def screenLines (s : Setup) (records : List Record) : List String :=
  ((s.passing records).filter (s.level ≤ ·.level)).map line

def fileLines (s : Setup) (records : List Record) : List String :=
  ((s.passing records).filter (debug ≤ ·.level)).map line

def directory? (s : Setup) : Option String :=
  s.file?.map fun action => Text.joinPath (if s.dir.isEmpty then "log" else s.dir) [action]

def path? (s : Setup) (stamp : String) : Option String := do
  let action ← s.file?
  let dir ← s.directory?
  return Text.joinPath dir [action ++ "_" ++ stamp ++ ".log"]

def files (s : Setup) (stamp : String) (records : List Record) : List (String × List String) :=
  match s.path? stamp with
  | some path => [(path, s.fileLines records)]
  | none => []

end Setup
end Log
end TypoSearch
