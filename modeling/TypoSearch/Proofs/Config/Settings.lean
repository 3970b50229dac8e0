import TypoSearch.Config.Settings
import TypoSearch.Proofs.Config.Field

/-! What settings that pass their checks are good for: each field is accepted where it is used, and they are
read again from the mapping that is written of them. -/
namespace TypoSearch
open Outcome (okBind bindOk pureOk unlessOk)
open Similarity (Measure)

/-! ## Registered names -/

theorem findNamed {α : Type} {name : α → String} {all : List α} {s : String} (known : s ∈ all.map name) :
    ∃ a, all.find? (name · == s) = some a := by
  obtain ⟨a, member, same⟩ := List.mem_map.mp known
  exact Option.isSome_iff_exists.mp (List.find?_isSome.mpr ⟨a, member, by simpa using same⟩)

theorem Similarity.Measure.registered {s : String} (known : s ∈ Measure.names) :
    ∃ measure, Measure.ofValue (.text s) = .ok measure := by
  obtain ⟨measure, found⟩ := findNamed known
  have named : Measure.ofName? s = some measure := found
  exact ⟨measure, by simp [Measure.ofValue, Value.key?, named]⟩

theorem Sql.Dialect.registered {s : String} (known : s ∈ Sql.Dialect.names) :
    ∃ d, Sql.Dialect.ofValue (.text s) = .ok d := by
  obtain ⟨d, found⟩ := findNamed known
  have named : Sql.Dialect.ofName? s = some d := found
  exact ⟨d, by simp [Sql.Dialect.ofValue, Value.key?, named]⟩

theorem Format.registered {s : String} (known : s ∈ Format.names) :
    ∃ format, Format.ofValue (.text s) = .ok format := by
  obtain ⟨format, found⟩ := findNamed known
  have named : Format.ofName? s = some format := found
  exact ⟨format, by simp [Format.ofValue, Value.key?, named]⟩

/-! ## Checks -/

theorem Sql.Dialect.renamedOk {d e : Sql.Dialect} {function : String} :
    d.withSimilarityFunction function = .ok e ↔
      Sql.isFunctionName function = true ∧ { d with similarityFunction := function } = e := by
  unfold Sql.Dialect.withSimilarityFunction
  split
  · rename_i accepted
    simp [accepted]
  · rename_i refused
    simp [refused]

namespace Config

structure Checked (s : Settings) : Prop where
  level : s.log.level ∈ logLevels
  dir : isBlankText s.log.dir = false
  budget : 0 ≤ s.matching.maxTypos
  scorer : s.matching.scorer ∈ Measure.names
  dialect : s.clause.dialect ∈ Sql.Dialect.names
  clauseBudget : 0 ≤ s.clause.maxTypos
  function : Sql.isFunctionName s.clause.similarityFunction = true
  path : isBlankText s.dbPath = false
  format : s.output.format ∈ Format.names
  rows : s.output.maxRows = -1 ∨ 0 < s.output.maxRows

theorem checkLogOk {s : LogSettings} :
    checkLog s = .ok () ↔ s.level ∈ logLevels ∧ isBlankText s.dir = false := by
  unfold checkLog
  rw [unlessOk, unlessOk]
  simp [pure, Except.pure]

theorem checkMatchingOk {s : MatchingSettings} :
    checkMatching s = .ok () ↔ 0 ≤ s.maxTypos ∧ s.scorer ∈ Measure.names := by
  unfold checkMatching
  rw [unlessOk, unlessOk]
  simp [pure, Except.pure]

theorem dialectForOk {s : ClauseSettings} {name : Value} {d : Sql.Dialect} :
    s.dialectFor name = .ok d ↔ ∃ base, Sql.Dialect.ofValue (if name.isVoid then .text s.dialect else name) =
      .ok base ∧ Sql.isFunctionName s.similarityFunction = true ∧
        { base with similarityFunction := s.similarityFunction } = d := by
  simp only [ClauseSettings.dialectFor, bindOk, Sql.Dialect.renamedOk]

theorem dialectChosen {s : ClauseSettings} {name : Value} (known : s.dialect ∈ Sql.Dialect.names)
    (function : Sql.isFunctionName s.similarityFunction = true)
    (named : name.isVoid = true ∨ ∃ n ∈ Sql.Dialect.names, name = .text n) :
    ∃ d, s.dialectFor name = .ok d := by
  have registered : ∃ base, Sql.Dialect.ofValue (if name.isVoid then .text s.dialect else name) = .ok base := by
    split
    · exact Sql.Dialect.registered known
    · rename_i chosen
      obtain ⟨n, member, rfl⟩ := named.resolve_left chosen
      exact Sql.Dialect.registered member
  obtain ⟨base, registered⟩ := registered
  exact ⟨_, dialectForOk.mpr ⟨base, registered, function, rfl⟩⟩

theorem checkClauseOk {s : ClauseSettings} : checkClause s = .ok () ↔
    s.dialect ∈ Sql.Dialect.names ∧ 0 ≤ s.maxTypos ∧ Sql.isFunctionName s.similarityFunction = true := by
  have resolved : discard (s.dialectFor .null) = .ok () ↔ ∃ d, s.dialectFor .null = .ok d := by
    cases s.dialectFor .null with
    | error f => exact ⟨fun same => (nomatch same), fun ⟨d, same⟩ => (nomatch same)⟩
    | ok d => exact ⟨fun _ => ⟨d, rfl⟩, fun _ => rfl⟩
  unfold checkClause
  rw [unlessOk, unlessOk, resolved]
  constructor
  · intro ⟨known, budget, d, resolves⟩
    obtain ⟨_, _, function, _⟩ := dialectForOk.mp resolves
    exact ⟨by simpa using known, by omega, function⟩
  · intro ⟨known, budget, function⟩
    exact ⟨by simpa using known, by omega, dialectChosen known function (.inl rfl)⟩

theorem checkStorageOk {path : String} : checkStorage path = .ok () ↔ isBlankText path = false := by
  unfold checkStorage
  rw [unlessOk]
  simp [pure, Except.pure]

theorem checkOutputOk {s : OutputSettings} :
    checkOutput s = .ok () ↔ s.format ∈ Format.names ∧ (s.maxRows = -1 ∨ 0 < s.maxRows) := by
  have range : ¬(s.maxRows = 0 ∨ s.maxRows < -1) ↔ s.maxRows = -1 ∨ 0 < s.maxRows := by omega
  unfold checkOutput
  rw [unlessOk, unlessOk, Bool.or_eq_true, decide_eq_true_eq, decide_eq_true_eq, range]
  simp [pure, Except.pure]

theorem checkOk {s : Settings} : check s = .ok () ↔ Checked s := by
  unfold check
  constructor
  · intro passed
    obtain ⟨_, log, passed⟩ := bindOk.mp passed
    obtain ⟨_, matching, passed⟩ := bindOk.mp passed
    obtain ⟨_, clause, passed⟩ := bindOk.mp passed
    obtain ⟨_, storage, output⟩ := bindOk.mp passed
    obtain ⟨level, dir⟩ := checkLogOk.mp log
    obtain ⟨budget, scorer⟩ := checkMatchingOk.mp matching
    obtain ⟨dialect, clauseBudget, function⟩ := checkClauseOk.mp clause
    obtain ⟨format, rows⟩ := checkOutputOk.mp output
    exact { level, dir, budget, scorer, dialect, clauseBudget, function, path := checkStorageOk.mp storage, format,
            rows }
  · intro c
    rw [checkLogOk.mpr ⟨c.level, c.dir⟩, checkMatchingOk.mpr ⟨c.budget, c.scorer⟩,
      checkClauseOk.mpr ⟨c.dialect, c.clauseBudget, c.function⟩, checkStorageOk.mpr c.path]
    exact checkOutputOk.mpr ⟨c.format, c.rows⟩

theorem ofRootOk {root : Section} {s : Settings} :
    Settings.ofValue (.dict root) = .ok s ↔ read root = .ok s ∧ Checked s := by
  unfold Settings.ofValue
  constructor
  · intro made
    obtain ⟨_, same, made⟩ := bindOk.mp made
    cases same
    obtain ⟨_, taken, made⟩ := bindOk.mp made
    obtain ⟨_, passed, last⟩ := bindOk.mp made
    cases pureOk.mp last
    exact ⟨taken, checkOk.mp passed⟩
  · rintro ⟨taken, checked⟩
    rw [entries, okBind, taken, okBind, checkOk.mpr checked]
    rfl

theorem standardChecked : Checked Settings.standard :=
  checkOk.mp (Outcome.optionOk (by decide +kernel))

/-! ## Reading again -/

theorem levelSpelled {level : String} (known : level ∈ logLevels) : Text.upper level = level := by
  have each : ∀ l ∈ logLevels, Text.upper l = l := by decide +kernel
  exact each level known

theorem formatSpelled {format : String} (known : format ∈ Format.names) : Text.lower format = format := by
  have each : ∀ f ∈ Format.names, Text.lower f = f := by decide +kernel
  exact each format known

section
variable {root es : Section}

theorem readLogHeld {s : LogSettings} (here : root.get? (.text "log") = some (.dict es))
    (level : es.get? (.text "level") = some (.text s.level))
    (toFile : es.get? (.text "to_file") = some (.bool s.toFile))
    (dir : es.get? (.text "dir") = some (.text s.dir)) (spelled : Text.upper s.level = s.level) :
    readLog root = .ok s := by
  rw [readLog, sectionHeld here, okBind, textHeld level, boolHeld toFile, textHeld dir]
  simp only [okBind, spelled, pureOk]

theorem readMatchingHeld {s : MatchingSettings} (here : root.get? (.text "matching") = some (.dict es))
    (maxTypos : es.get? (.text "max_typos") = some (.int s.maxTypos))
    (termLogic : es.get? (.text "term_logic") = some (.text s.termLogic.word))
    (columnLogic : es.get? (.text "column_logic") = some (.text s.columnLogic.word))
    (scorer : es.get? (.text "scorer") = some (.text s.scorer)) : readMatching root = .ok s := by
  rw [readMatching, sectionHeld here, okBind, intHeld maxTypos, logicHeld termLogic, logicHeld columnLogic,
    textHeld scorer]
  rfl

theorem readClauseHeld {s : ClauseSettings} (here : root.get? (.text "clause") = some (.dict es))
    (dialect : es.get? (.text "dialect") = some (.text s.dialect))
    (function : es.get? (.text "similarity_function") = some (.text s.similarityFunction))
    (maxTypos : es.get? (.text "max_typos") = some (.int s.maxTypos))
    (termLogic : es.get? (.text "term_logic") = some (.text s.termLogic.word))
    (columnLogic : es.get? (.text "column_logic") = some (.text s.columnLogic.word)) :
    readClause root = .ok s := by
  rw [readClause, sectionHeld here, okBind, textHeld dialect, textHeld function, intHeld maxTypos,
    logicHeld termLogic, logicHeld columnLogic]
  rfl

theorem readStorageHeld {path : String} (here : root.get? (.text "storage") = some (.dict es))
    (dbPath : es.get? (.text "db_path") = some (.text path)) : readStorage root = .ok path := by
  rw [readStorage, sectionHeld here, okBind, textHeld dbPath]

theorem readOutputHeld {s : OutputSettings} (here : root.get? (.text "output") = some (.dict es))
    (format : es.get? (.text "format") = some (.text s.format))
    (maxRows : es.get? (.text "max_rows") = some (.int s.maxRows))
    (spelled : Text.lower s.format = s.format) : readOutput root = .ok s := by
  rw [readOutput, sectionHeld here, okBind, textHeld format, intHeld maxRows]
  simp only [okBind, spelled, pureOk]

end

theorem reread {s : Settings} (checked : Checked s) : Settings.ofValue s.toValue = .ok s := by
  refine ofRootOk.mpr ⟨?_, checked⟩
  rw [read, readLogHeld (s := s.log) rfl rfl rfl rfl (levelSpelled checked.level),
    readMatchingHeld (s := s.matching) rfl rfl rfl rfl rfl, readClauseHeld (s := s.clause) rfl rfl rfl rfl rfl rfl,
    readStorageHeld rfl rfl,
    readOutputHeld (s := s.output) rfl rfl rfl (formatSpelled checked.format)]
  rfl

/-! ## Keys that are read -/

def fieldsRead : List (String × List String) := [
  ("log", ["level", "to_file", "dir"]),
  ("matching", ["max_typos", "term_logic", "column_logic", "scorer"]),
  ("clause", ["dialect", "similarity_function", "max_typos", "term_logic", "column_logic"]),
  ("storage", ["db_path"]),
  ("output", ["format", "max_rows"])]

def SameSettings (root other : Section) : Prop :=
  ∀ group ∈ fieldsRead, SameFields group.2 (root.get? (.text group.1)) (other.get? (.text group.1))

theorem readSame {root other : Section} (same : SameSettings root other) : read root = read other := by
  simp only [SameSettings, fieldsRead, List.forall_mem_cons] at same
  obtain ⟨log, matching, clause, storage, output, _⟩ := same
  have log : readLog root = readLog other := sectionSame log fun es fs same => by
    simp only [List.forall_mem_cons] at same
    simp only [textField, boolField, field, same]
  have matching : readMatching root = readMatching other := sectionSame matching fun es fs same => by
    simp only [List.forall_mem_cons] at same
    simp only [textField, intField, logicField, field, same]
  have clause : readClause root = readClause other := sectionSame clause fun es fs same => by
    simp only [List.forall_mem_cons] at same
    simp only [textField, intField, logicField, field, same]
  have storage : readStorage root = readStorage other := sectionSame storage fun es fs same => by
    simp only [List.forall_mem_cons] at same
    simp only [textField, field, same]
  have output : readOutput root = readOutput other := sectionSame output fun es fs same => by
    simp only [List.forall_mem_cons] at same
    simp only [textField, intField, field, same]
  rw [read, read, log, matching, clause, storage, output]

theorem ofRootSame {root other : Section} (same : SameSettings root other) :
    Settings.ofValue (.dict root) = Settings.ofValue (.dict other) := by
  rw [Settings.ofValue, Settings.ofValue, entries, entries, okBind, okBind, readSame same]

end Config
end TypoSearch
