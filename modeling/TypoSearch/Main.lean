import TypoSearch.Cli.Run

/-! The program: it reads the files that a run asks for, prints what the run leaves and keeps its log.
Databases hold no rows here beyond those of an empty file. -/
namespace TypoSearch.Cli
open Store (Database)

def readText? (path : String) : IO (Option String) := do
  try return some (← IO.FS.readFile path)
  catch _ => return none

def readDatabase (path : String) : IO (Except Fault Database) := do
  match ← readText? path with
  | some "" | none => return .ok .empty
  | some _ => return .error .notDatabase

def isFile (path : String) : IO Bool := do return (← readText? path).isSome

def disk : Disk IO := { text? := readText?, isFile := isFile, database := readDatabase }

def ensureParent (path : String) : IO Unit := do
  let parent := Text.directoryOf path
  unless parent.isEmpty || parent = "/" do IO.FS.createDirAll parent

def writeLines (path : String) (lines : List String) : IO Unit := do
  ensureParent path
  IO.FS.writeFile path (String.join (lines.map (·.push '\n')))

def touch (path : String) : IO Unit := do
  unless path = memoryPath do
    ensureParent path
    if (← readText? path).isNone then IO.FS.writeFile path ""

def leave (o : Outcome) : IO UInt32 := do
  o.opened.forM touch
  o.files.forM fun f => writeLines f.1 f.2
  o.screen.forM IO.eprintln
  if let some f := o.escaped then IO.eprintln f.message
  IO.print o.output
  return o.exitCode.toUInt32

def settingsVariable : String := "PG_SEARCH_HELPER_CONFIG"

end TypoSearch.Cli

def main (words : List String) : IO UInt32 := do
  let environment ← IO.getEnv TypoSearch.Cli.settingsVariable
  let stamp := toString (← IO.monoMsNow)
  TypoSearch.Cli.leave (← TypoSearch.Cli.run TypoSearch.Cli.disk environment stamp words)
