import TypoSearch.Config.Field
import TypoSearch.Report
import TypoSearch.Similarity.Measure
import TypoSearch.Sql.Dialect

/-! Settings of the program. All sections are read before any of them is checked. -/
namespace TypoSearch

structure LogSettings where
  level : String
  toFile : Bool
  dir : String
  deriving DecidableEq, Repr

structure MatchingSettings where
  maxTypos : Int
  termLogic : Logic
  columnLogic : Logic
  scorer : String
  deriving DecidableEq, Repr

structure ClauseSettings where
  dialect : String
  similarityFunction : String
  maxTypos : Int
  termLogic : Logic
  columnLogic : Logic
  deriving DecidableEq, Repr

structure OutputSettings where
  format : String
  maxRows : Int
  deriving DecidableEq, Repr

structure Settings where
  log : LogSettings
  matching : MatchingSettings
  clause : ClauseSettings
  dbPath : String
  output : OutputSettings
  deriving DecidableEq, Repr

namespace Config

def logLevels : List String := ["CRITICAL", "DEBUG", "ERROR", "INFO", "WARNING"]

def readLog (root : Section) : Except Fault LogSettings := do
  let s ← sectionOf root "log" true
  let level ← textField s "log" "level"
  let toFile ← boolField s "log" "to_file"
  let dir ← textField s "log" "dir"
  return ⟨Text.upper level, toFile, dir⟩

def readMatching (root : Section) : Except Fault MatchingSettings := do
  let s ← sectionOf root "matching" true
  let maxTypos ← intField s "matching" "max_typos"
  let termLogic ← logicField s "matching" "term_logic"
  let columnLogic ← logicField s "matching" "column_logic"
  let scorer ← textField s "matching" "scorer"
  return ⟨maxTypos, termLogic, columnLogic, scorer⟩

def readClause (root : Section) : Except Fault ClauseSettings := do
  let s ← sectionOf root "clause" true
  let dialect ← textField s "clause" "dialect"
  let similarityFunction ← textField s "clause" "similarity_function"
  let maxTypos ← intField s "clause" "max_typos"
  let termLogic ← logicField s "clause" "term_logic"
  let columnLogic ← logicField s "clause" "column_logic"
  return ⟨dialect, similarityFunction, maxTypos, termLogic, columnLogic⟩

def readStorage (root : Section) : Except Fault String := do
  let s ← sectionOf root "storage" true
  textField s "storage" "db_path"

def readOutput (root : Section) : Except Fault OutputSettings := do
  let s ← sectionOf root "output" true
  let format ← textField s "output" "format"
  let maxRows ← intField s "output" "max_rows"
  return ⟨Text.lower format, maxRows⟩

def read (root : Section) : Except Fault Settings := do
  let log ← readLog root
  let matching ← readMatching root
  let clause ← readClause root
  let dbPath ← readStorage root
  let output ← readOutput root
  return ⟨log, matching, clause, dbPath, output⟩

end Config

def ClauseSettings.dialectFor (s : ClauseSettings) (name : Value) : Except Fault Sql.Dialect := do
  let d ← Sql.Dialect.ofValue (if name.isVoid then .text s.dialect else name)
  d.withSimilarityFunction s.similarityFunction

def OutputSettings.limit? (s : OutputSettings) : Option Int :=
  if s.maxRows = -1 then none else some s.maxRows

namespace Config

def isBlankText (s : String) : Bool := (trimmed s).isEmpty

def checkLog (s : LogSettings) : Except Fault Unit := do
  if !logLevels.contains s.level then .error (.settingChoice "log.level" logLevels)
  else if isBlankText s.dir then .error (.settingEmpty "log.dir")

def checkMatching (s : MatchingSettings) : Except Fault Unit := do
  if s.maxTypos < 0 then .error (.settingRange "matching.max_typos" ">= 0")
  else if !Similarity.Measure.names.contains s.scorer then
    .error (.settingChoice "matching.scorer" Similarity.Measure.names)

def checkClause (s : ClauseSettings) : Except Fault Unit := do
  if !Sql.Dialect.names.contains s.dialect then .error (.settingChoice "clause.dialect" Sql.Dialect.names)
  else if s.maxTypos < 0 then .error (.settingRange "clause.max_typos" ">= 0")
  else discard (s.dialectFor .null)

def checkStorage (path : String) : Except Fault Unit := do
  if isBlankText path then .error (.settingEmpty "storage.db_path")

def checkOutput (s : OutputSettings) : Except Fault Unit := do
  if !Format.names.contains s.format then .error (.settingChoice "output.format" Format.names)
  else if s.maxRows = 0 || s.maxRows < -1 then .error (.settingRange "output.max_rows" "-1 or positive")

def check (s : Settings) : Except Fault Unit := do
  checkLog s.log
  checkMatching s.matching
  checkClause s.clause
  checkStorage s.dbPath
  checkOutput s.output

end Config

def Settings.ofValue (given : Value) : Except Fault Settings := do
  let root ← Config.entries given
  let s ← Config.read root
  Config.check s
  return s

namespace Settings

def logicValue (l : Logic) : Value := .text l.word

def group (name : String) (fields : List (String × Value)) : Key × Value :=
  (.text name, .dict (fields.map fun f => (.text f.1, f.2)))

def toValue (s : Settings) : Value := .dict [
  group "log" [("level", .text s.log.level), ("to_file", .bool s.log.toFile), ("dir", .text s.log.dir)],
  group "matching" [("max_typos", .int s.matching.maxTypos), ("term_logic", logicValue s.matching.termLogic),
    ("column_logic", logicValue s.matching.columnLogic), ("scorer", .text s.matching.scorer)],
  group "clause" [("dialect", .text s.clause.dialect),
    ("similarity_function", .text s.clause.similarityFunction), ("max_typos", .int s.clause.maxTypos),
    ("term_logic", logicValue s.clause.termLogic), ("column_logic", logicValue s.clause.columnLogic)],
  group "storage" [("db_path", .text s.dbPath)],
  group "output" [("format", .text s.output.format), ("max_rows", .int s.output.maxRows)]]

def standard : Settings where
  log := ⟨"INFO", false, "log"⟩
  matching := ⟨1, .and, .and, Similarity.Measure.partialRatio.name⟩
  clause := ⟨Sql.Dialect.postgres.name, Sql.wordSimilarity, 1, .or, .and⟩
  dbPath := "database/search.db"
  output := ⟨Format.text.name, 50⟩

end Settings
end TypoSearch
