import TypoSearch.Cli.Command
import TypoSearch.Config.Layers
import TypoSearch.Log
import TypoSearch.Store.Search

/-! Running a command: the settings are layered, the log is set up for the action, and the command leaves
its output, its records and the files it touched. A failing command is reported in the log. -/
namespace TypoSearch.Cli
open Number (Binary64)
open Similarity (Measure)
open Sql
open Store (Database Session Request)

structure Disk (m : Type → Type) where
  text? : String → m (Option String)
  isFile : String → m Bool
  database : String → m (Except Fault Database)
  /-- Why the system makes nothing at a path, beyond what the names on the way to it say. -/
  refuses : String → Option Fault := fun _ => none

structure Outcome where
  exitCode : Nat
  output : String := ""
  screen : List String := []
  files : List (String × List String) := []
  opened : List String := []
  escaped : Option Fault := none
  deriving Repr

def Stop.outcome : Stop → Outcome
  | usage => { exitCode := 2 }
  | help => { exitCode := 0 }

structure Done where
  records : List Record := []
  opened : List String := []

abbrev Work (m : Type → Type) := ExceptT Fault (StateT Done m)

section
variable {m : Type → Type} [Monad m]

def note (level : Int) (text : String) : Work m Unit :=
  modify fun d => { d with records := d.records ++ [⟨level, text⟩] }

def settled {α : Type} (x : Except Fault α) : Work m α :=
  match x with
  | .ok a => pure a
  | .error f => throw f

def eventText : Event String String Binary64 → Option String
  | .asked _ _ => none
  | .contained pattern matched =>
    some ("contains term=" ++ Text.quoted pattern ++ " matched=" ++ boolName matched)
  | .scored pattern score cutoff matched =>
    some ("similarity term=" ++ Text.quoted pattern ++ " score=" ++ score.fixed 4 ++ " cutoff=" ++
      cutoff.fixed 4 ++ " matched=" ++ boolName matched)

def traced {α : Type} (x : Matching.Recorded String String Binary64 α) : Work m α := do
  let (result, events) := x.run
  (events.filterMap eventText).forM (note Log.debug)
  settled result

def runThreshold (length typos : Nat) : Work m String := do
  let cutoff : Binary64 ← settled (Cutoff.ofLength length typos)
  return cutoff.shown

def logicValue (given : Option Logic) (other : Logic) : Value := .text (given.getD other).word

def typosValue (given : Option Nat) (other : Int) : Value := .int ((given.map Int.ofNat).getD other)

def matchValues (scorer : Similarity.Scorer Binary64) (query : String) (values : List String)
    (budget termLogic columnLogic : Value) : Matching.Recorded String String Binary64 Bool :=
  let c := Matching.recorded scorer
  match values with
  | [value] => Matching.matchQuery (π := String) c (some value) (.text query) budget termLogic
  | values =>
    Matching.matchColumnsQuery (π := String) c (.text query) budget termLogic columnLogic
      (.ok (values.map some))

def decideMatch (s : MatchingSettings) (query : String) (values : List String) (o : Overrides) :
    Matching.Recorded String String Binary64 Bool := do
  let measure ← Matching.settled (Measure.ofValue (.text s.scorer))
  matchValues measure.scorer query values (typosValue o.typos s.maxTypos) (logicValue o.termLogic s.termLogic)
    (logicValue o.columnLogic s.columnLogic)

def runDecide (s : MatchingSettings) (query : String) (values : List String) (o : Overrides) :
    Work m String := do
  let matched ← traced (decideMatch s query values o)
  note Log.debug ("match query=" ++ Text.quoted query ++ " values=" ++ toString values.length ++
    " matched=" ++ boolName matched)
  return if matched then "true" else "false"

def compiledText (c : Clause.Compiled) : String :=
  "Compiled " ++ toString c.terms ++ " term(s) over " ++ toString c.columns ++ " column(s): " ++ c.text

def compileColumns (d : Dialect) (query : String) (columns : List String)
    (budget termLogic columnLogic : Value) : Work m String := do
  match columns with
  | [column] => settled (Clause.ofQuery d (.text column) (.text query) budget termLogic)
  | columns =>
    let c ← settled (Clause.ofColumnsQuery d (.ok (columns.map Value.text)) (.text query) budget termLogic
      columnLogic)
    note Log.debug (compiledText c)
    return c.text

def runClause (s : ClauseSettings) (query : String) (columns : List String) (dialect : Option String)
    (o : Overrides) : Work m String := do
  let d ← settled (s.dialectFor ((dialect.map Value.text).getD .null))
  compileColumns d query columns (typosValue o.typos s.maxTypos) (logicValue o.termLogic s.termLogic)
    (logicValue o.columnLogic s.columnLogic)

def searchRequest (s : Settings) (query table : String) (columns : List String) (o : Overrides) : Request :=
  { table := .text table
    columns := .texts columns
    query := .text query
    budget := typosValue o.typos s.clause.maxTypos
    termLogic := logicValue o.termLogic s.clause.termLogic
    columnLogic := logicValue o.columnLogic s.clause.columnLogic
    limit := s.output.limit? }

def obstacle (disk : Disk m) (dir : String) : m (Option Fault) := do
  if Text.holdsNull dir then return some .nullByte
  else if ← (Text.ancestors dir).anyM disk.isFile then return some (.notDirectory dir)
  else if ← disk.isFile dir then return some (.fileExists dir)
  else return disk.refuses dir

def isDirectory (logDir : Option String) (path : String) : Bool :=
  match Text.placeOf? path with
  | some [] => true
  | some place => ((logDir.bind Text.placeOf?).getD []).take place.length == place
  | none => (Text.pathParts path).getLast? == some Text.parentName

def memoryPath : String := ":memory:"

def openDatabase (disk : Disk m) (logDir : Option String) (path : String) :
    Work m (Except Fault Database) := do
  if path ≠ memoryPath then
    match ← (obstacle disk (Text.directoryOf path) : m (Option Fault)) with
    | some f => throw f
    | none => pure ()
  note Log.debug ("Opening SQLite database: " ++ path)
  if Text.holdsNull path then throw .nullByte
  if isDirectory logDir path then throw .openFailed
  let db ← if path = memoryPath then pure (.ok .empty) else do
    if let some f := disk.refuses path then throw f
    modify fun d => { d with opened := d.opened ++ [path] }
    (disk.database path : m (Except Fault Database))
  note Log.info ("Using database: " ++ path)
  return db

def logSetup (s : LogSettings) (action : String) : Log.Setup :=
  ⟨Log.levelNamed s.level, some action, s.toFile, s.dir⟩

def runSearch (disk : Disk m) (s : Settings) (logDir : Option String) (query table : String) (columns : List String)
    (o : Overrides) : Work m String := do
  let measure ← settled (Measure.ofValue (.text s.matching.scorer))
  let path := Text.normalPath s.dbPath
  let opened ← openDatabase disk logDir path
  note Log.info ("table=" ++ table ++ " columns=" ++ shownTexts columns ++ " query=" ++ Text.quoted query)
  let session : Session := { database := ← settled opened, measure := measure }
  let t ← settled (session.prepare (searchRequest s query table columns o))
  note Log.debug (compiledText t.clause)
  note Log.debug ("Search SQL: " ++ t.text)
  let rows ← settled (session.run t)
  note Log.info ("Matched " ++ toString rows.length ++ " row(s) in " ++ table)
  let format ← settled (Format.ofValue (.text s.output.format))
  settled (Report.rendered format (some (.text query)) (rows.map (Store.reportRow t.known)))

def runCommand (disk : Disk m) (s : Settings) (logDir : Option String) : Command → Work m String
  | .threshold length typos => runThreshold length typos
  | .decide query values o => runDecide s.matching query values o
  | .clause query columns dialect o => runClause s.clause query columns dialect o
  | .search query table columns o => runSearch disk s logDir query table columns o

def printed (c : Command) (output : String) : String :=
  match c with
  | .search .. => if output.isEmpty then "" else output.push '\n'
  | _ => output.push '\n'

def failureRecord (c : Command) (f : Fault) : Record := ⟨Log.error, c.title ++ " failed: " ++ f.message⟩

def perform (disk : Disk m) (s : Settings) (setup : Log.Setup) (stamp : String) (c : Command) :
    m Outcome := do
  let (result, done) ← (runCommand disk s setup.directory? c).run.run {}
  let finish (code : Nat) (output : String) (records : List Record) : Outcome :=
    { exitCode := code
      output := output
      screen := setup.screenLines records
      files := setup.files stamp records
      opened := done.opened }
  match result with
  | .ok output => return finish 0 (printed c output) done.records
  | .error f => return finish 1 "" (done.records ++ [failureRecord c f])

def logObstacle (disk : Disk m) (setup : Log.Setup) (stamp : String) : m (Option Fault) := do
  match setup.directory? with
  | none => return none
  | some dir => match ← obstacle disk dir with
    | some f => return some f
    | none => return (setup.path? stamp).bind disk.refuses

/-- The log is set up before the command runs, which cannot report that it was not. -/
def execute (disk : Disk m) (s : Settings) (stamp : String) (c : Command) : m Outcome := do
  let setup := logSetup s.log c.name
  match ← logObstacle disk setup stamp with
  | some f => return { exitCode := 1, escaped := some f }
  | none => perform disk s setup stamp c

def configOption : OptionName := ⟨"--config", none⟩

def configPath? (environment : Option String) (g : Given) : Option String :=
  match g.last? configOption.long with
  | some path => some path
  | none => environment.filter (!·.isEmpty)

def configText (disk : Disk m) (path : Option String) : m (Except Stop (Option String)) := do
  match path with
  | none => return .ok none
  | some p => match ← disk.text? p with
    | some text => return .ok (some text)
    | none => return .error .usage

def runNamed (disk : Disk m) (stamp : String) (override : Option String) (name : String)
    (words : List String) : m Outcome :=
  if !Command.names.contains name then return Stop.usage.outcome
  else match Config.layered none override with
  | .error f => return { exitCode := 1, escaped := some f }
  | .ok s => match Command.ofWords name words with
    | .error stop => return stop.outcome
    | .ok c => execute disk s stamp c

def run (disk : Disk m) (environment : Option String) (stamp : String) (words : List String) :
    m Outcome := do
  match read [configOption] false words with
  | .error stop => return stop.outcome
  | .ok g => match ← configText disk (configPath? environment g) with
    | .error stop => return stop.outcome
    | .ok override => match g.arguments with
      | [] => return Stop.usage.outcome
      | name :: rest => runNamed disk stamp override name rest

end
end TypoSearch.Cli
