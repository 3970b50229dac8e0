import TypoSearch.Cli.Run
import TypoSearch.Proofs.Config.Settings
import TypoSearch.Proofs.Matching.ShortCircuit
import TypoSearch.Proofs.Plan.Refusal
import TypoSearch.Proofs.Sql.Agreement

/-! Running with settings that were read. A command fails only where one of its steps does, and each step
that depends on a setting accepts what the checks let through. What is left to fail is the conversion of
numbers in planning, which depends on the query as well. -/
namespace TypoSearch.Cli
open Config (Checked SameSettings)
open Number (Binary64)
open Similarity (Measure)
open Sql

/-! ## Runs of a command -/

section
variable {m : Type → Type} [Monad m] {α β : Type}

def Ends (x : Work m α) (r : Except Fault α) : Prop := ∀ done, ∃ after, x.run.run done = pure (r, after)

theorem endsSettled (x : Except Fault α) : Ends (settled x : Work m α) x := by
  cases x <;> exact fun done => ⟨done, rfl⟩

theorem endsOk {x : Except Fault α} {a : α} (made : x = .ok a) : Ends (settled x : Work m α) (.ok a) :=
  made ▸ endsSettled x

theorem endsPure (a : α) : Ends (pure a : Work m α) (.ok a) := endsSettled (.ok a)

variable [LawfulMonad m]

theorem endsBind {x : Work m α} {next : α → Work m β} {a : α} {r : Except Fault β} (first : Ends x (.ok a))
    (second : Ends (next a) r) : Ends (x >>= next) r := by
  intro done
  obtain ⟨between, ran⟩ := first done
  obtain ⟨after, rest⟩ := second between
  refine ⟨after, ?_⟩
  rw [ExceptT.run_bind, StateT.run_bind, ran, pure_bind]
  exact rest

theorem endsFailed {x : Work m α} {f : Fault} (failed : Ends x (.error f)) (next : α → Work m β) :
    Ends (x >>= next) (.error f) := by
  intro done
  obtain ⟨after, ran⟩ := failed done
  refine ⟨after, ?_⟩
  rw [ExceptT.run_bind, StateT.run_bind, ran, pure_bind]
  rfl

theorem endsNote (level : Int) (text : String) : Ends (note level text : Work m Unit) (.ok ()) := by
  intro done
  exact ⟨{ done with records := done.records ++ [⟨level, text⟩] }, pure_bind ((), _) _⟩

theorem endsNotes (level : Int) (texts : List String) :
    Ends (texts.forM (note level) : Work m Unit) (.ok ()) := by
  induction texts with
  | nil => exact endsPure ()
  | cons text rest ih => exact endsBind (endsNote level text) ih

theorem endsTraced (x : Matching.Recorded String String Binary64 α) : Ends (traced x : Work m α) x.run.1 :=
  endsBind (endsNotes Log.debug _) (endsSettled _)

theorem executeEnds {disk : Disk m} {s : Settings} {stamp : String} {c : Command} {r : Except Fault String}
    (kept : logObstacle disk (logSetup s.log c.name) stamp = pure none)
    (ends : Ends (runCommand disk s (logSetup s.log c.name).directory? c) r) :
    ∃ o, execute disk s stamp c = pure o ∧ o.escaped = none ∧
      match r with
      | .ok output => o.exitCode = 0 ∧ o.output = printed c output
      | .error _ => o.exitCode = 1 ∧ o.output = "" := by
  obtain ⟨after, ran⟩ := ends {}
  unfold execute
  dsimp only
  rw [kept, pure_bind]
  unfold perform
  rw [ran, pure_bind]
  cases r with
  | ok output => exact ⟨_, rfl, rfl, rfl, rfl⟩
  | error f => exact ⟨_, rfl, rfl, rfl, rfl⟩

theorem executeUnlogged {disk : Disk m} {s : Settings} {stamp dir : String} {c : Command} {f : Fault}
    (kept : (logSetup s.log c.name).directory? = some dir) (blocked : obstacle disk dir = pure (some f)) :
    execute disk s stamp c = pure { exitCode := 1, escaped := some f } := by
  unfold execute logObstacle
  simp only [kept, blocked, pure_bind]

theorem obstacleAbove {disk : Disk m} {dir path : String} (clear : Text.holdsNull dir = false)
    (above : Text.ancestors dir = [path]) (file : disk.isFile path = pure true) :
    obstacle disk dir = pure (some (.notDirectory dir)) := by
  unfold obstacle
  simp [clear, above, List.anyM, file]

end

/-! ## Commands without overrides -/

theorem decideMatchOk {s : MatchingSettings} {measure : Measure} {typos : Nat}
    (named : Measure.ofValue (.text s.scorer) = .ok measure) (budget : s.maxTypos = typos) (query : String)
    (values : List String) (converts : ∀ t ∈ Query.terms query, Plan.Converts typos t) :
    ∃ matched, (decideMatch s query values {}).run.1 = .ok matched := by
  obtain ⟨plan, planned⟩ := Plan.termsOfConverted "match_logic" s.termLogic converts
  obtain ⟨columns, plannedColumns⟩ := Plan.columnsOfConverted s.columnLogic s.termLogic converts
  rw [← budget] at planned plannedColumns
  have asked : Query.termsOf (.text query) = .ok (Query.terms query) := rfl
  unfold decideMatch matchValues
  simp only [Matching.settledOk, named, Except.ok.injEq, exists_eq_left']
  split
  · exact ⟨_, Matching.queryAnswer measure.scorer asked planned _⟩
  · exact ⟨_, Matching.columnsQueryAnswer measure.scorer asked plannedColumns _⟩

theorem compiledOk {s : ClauseSettings} {d : Dialect} {typos : Nat} (budget : s.maxTypos = typos)
    (query : String) {columns : List String} (converts : ∀ t ∈ Query.terms query, Plan.Converts typos t)
    (named : ∀ c ∈ columns, c ≠ "") :
    ∃ compiled, Clause.ofColumnsQuery d (.ok (columns.map Value.text)) (.text query)
      (typosValue none s.maxTypos) (logicValue none s.termLogic) (logicValue none s.columnLogic) =
        .ok compiled := by
  obtain ⟨plan, planned⟩ := Plan.columnsOfConverted s.columnLogic s.termLogic converts
  rw [← budget] at planned
  rw [ofColumnsQueryAsked d _ rfl]
  exact ⟨_, Clause.ofColumnsText planned (.inr named)⟩

section
variable {m : Type → Type} [Monad m] [LawfulMonad m]

theorem decideEnds {s : MatchingSettings} {measure : Measure} {typos : Nat}
    (named : Measure.ofValue (.text s.scorer) = .ok measure) (budget : s.maxTypos = typos) (query : String)
    (values : List String) (converts : ∀ t ∈ Query.terms query, Plan.Converts typos t) :
    ∃ matched : Bool, Ends (runDecide s query values {} : Work m String)
      (.ok (if matched then "true" else "false")) := by
  obtain ⟨matched, answered⟩ := decideMatchOk named budget query values converts
  exact ⟨matched, endsBind (answered ▸ endsTraced _) (endsBind (endsNote Log.debug _) (endsPure _))⟩

theorem clauseEnds {s : ClauseSettings} {d : Dialect} {typos : Nat} (resolved : s.dialectFor .null = .ok d)
    (budget : s.maxTypos = typos) (query : String) {columns : List String}
    (converts : ∀ t ∈ Query.terms query, Plan.Converts typos t) (named : ∀ c ∈ columns, c ≠ "") :
    ∃ output, Ends (runClause s query columns none {} : Work m String) (.ok output) := by
  have several : ∃ output, Ends (do
      let c ← settled (Clause.ofColumnsQuery d (.ok (columns.map Value.text)) (.text query)
        (typosValue none s.maxTypos) (logicValue none s.termLogic) (logicValue none s.columnLogic))
      note Log.debug (compiledText c)
      return c.text : Work m String) (.ok output) := by
    obtain ⟨compiled, made⟩ := compiledOk (d := d) budget query converts named
    exact ⟨_, endsBind (endsOk made) (endsBind (endsNote Log.debug _) (endsPure _))⟩
  -- one column is compiled by itself, without a logic across columns
  rcases columns with _ | ⟨column, _ | ⟨second, rest⟩⟩
  · exact several.imp fun _ => endsBind (endsOk resolved)
  · obtain ⟨plan, planned⟩ := Plan.termsOfConverted "match_logic" s.termLogic converts
    rw [← budget] at planned
    have nonempty : column ≠ "" := named column List.mem_cons_self
    exact ⟨_, endsBind (endsOk resolved) (endsOk (Clause.ofQueryText rfl planned nonempty))⟩
  · exact several.imp fun _ => endsBind (endsOk resolved)

end

/-! ## Settings that were read -/

structure Safe (s : Settings) : Prop where
  scorer : ∃ measure, Measure.ofValue (.text s.matching.scorer) = .ok measure
  dialect : ∃ d, s.clause.dialectFor .null = .ok d
  dialects : ∀ name ∈ Dialect.names, ∃ d, s.clause.dialectFor (.text name) = .ok d
  budget : Budget.ofValue (.int s.matching.maxTypos) = .ok s.matching.maxTypos.toNat
  clauseBudget : Budget.ofValue (.int s.clause.maxTypos) = .ok s.clause.maxTypos.toNat
  logics : ∀ l ∈ [s.matching.termLogic, s.matching.columnLogic, s.clause.termLogic, s.clause.columnLogic],
    ∀ argument, Logic.ofValue argument (.text l.word) = .ok l
  limit : ∀ n, s.output.limit? = some n → 0 < n
  format : ∃ format, Format.ofValue (.text s.output.format) = .ok format
  decides : ∀ {m : Type → Type} [Monad m] [LawfulMonad m] (disk : Disk m) (stamp query : String)
    (values : List String), logObstacle disk (logSetup s.log "match") stamp = pure none →
    (∀ t ∈ Query.terms query, Plan.Converts s.matching.maxTypos.toNat t) →
      ∃ (matched : Bool) (o : Outcome), execute disk s stamp (.decide query values {}) = pure o ∧
        o.escaped = none ∧ o.exitCode = 0 ∧ o.output = if matched then "true\n" else "false\n"
  compiles : ∀ {m : Type → Type} [Monad m] [LawfulMonad m] (disk : Disk m) (stamp query : String)
    (columns : List String), logObstacle disk (logSetup s.log "clause") stamp = pure none →
    (∀ c ∈ columns, c ≠ "") → (∀ t ∈ Query.terms query, Plan.Converts s.clause.maxTypos.toNat t) →
      ∃ (text : String) (o : Outcome), execute disk s stamp (.clause query columns none {}) = pure o ∧
        o.escaped = none ∧ o.exitCode = 0 ∧ o.output = text.push '\n'

theorem checkedSafe {s : Settings} (checked : Checked s) : Safe s := by
  obtain ⟨measure, named⟩ := Measure.registered checked.scorer
  have resolved (name : Value) : name.isVoid = true ∨ (∃ n ∈ Dialect.names, name = .text n) →
      ∃ d, s.clause.dialectFor name = .ok d := Config.dialectChosen checked.dialect checked.function
  obtain ⟨d, dialect⟩ := resolved .null (.inl rfl)
  have budget : s.matching.maxTypos = s.matching.maxTypos.toNat := (Int.toNat_of_nonneg checked.budget).symm
  have clauseBudget : s.clause.maxTypos = s.clause.maxTypos.toNat :=
    (Int.toNat_of_nonneg checked.clauseBudget).symm
  exact {
    scorer := ⟨measure, named⟩
    dialect := ⟨d, dialect⟩
    dialects := fun name known => resolved (.text name) (.inr ⟨name, known, rfl⟩)
    budget := Budget.ofValueOk.mpr (congrArg Value.int budget)
    clauseBudget := Budget.ofValueOk.mpr (congrArg Value.int clauseBudget)
    logics := fun l _ argument => Logic.ofValueOk.mpr rfl
    limit := fun n same => by
      unfold OutputSettings.limit? at same
      have rows := checked.rows
      split at same
      · cases same
      · cases same
        omega
    format := Format.registered checked.format
    decides := fun {m} _ _ disk stamp query values kept converts => by
      obtain ⟨matched, ends⟩ := decideEnds (m := m) named budget query values converts
      obtain ⟨o, ran, escaped, code, output⟩ := executeEnds (c := .decide query values {}) kept ends
      refine ⟨matched, o, ran, escaped, code, output.trans ?_⟩
      cases matched <;> rfl
    compiles := fun {m} _ _ disk stamp query columns kept named converts => by
      obtain ⟨text, ends⟩ := clauseEnds (m := m) dialect clauseBudget query converts named
      obtain ⟨o, ran, escaped, code, output⟩ := executeEnds (c := .clause query columns none {}) kept ends
      exact ⟨text, o, ran, escaped, code, output⟩ }

/-- Settings that were read pass in every place that uses them, and in normal spelling they are read as
the same settings. Nothing else in the mapping has a part in them. -/
theorem parsedSafe (root : Config.Section) :
    (∀ s, Settings.ofValue (.dict root) = .ok s → Safe s ∧ Settings.ofValue s.toValue = .ok s) ∧
    ∀ other, SameSettings root other → Settings.ofValue (.dict other) = Settings.ofValue (.dict root) := by
  refine ⟨fun s parsed => ?_, fun other same => (Config.ofRootSame same).symm⟩
  obtain ⟨_, checked⟩ := Config.ofRootOk.mp parsed
  exact ⟨checkedSafe checked, Config.reread checked⟩

def respelled : Config.Section := Config.merge Config.standardEntries [
  (.text "matching", .dict [(.text "term_logic", .text " or "), (.text "typos", .int 3)]),
  (.text "output", .dict [(.text "format", .text "JSON"), (.text "max_rows", .int (-1))])]

theorem respelledSafe : ∃ s, Settings.ofValue (.dict respelled) = .ok s ∧
    s.matching.termLogic = .or ∧ s.output = ⟨"json", -1⟩ ∧ Safe s ∧ Settings.ofValue s.toValue = .ok s ∧
      Settings.ofValue (.dict ((.text "extra", .null) :: respelled)) = .ok s := by
  obtain ⟨parses, same⟩ := parsedSafe respelled
  have parsed : Settings.ofValue (.dict respelled) = .ok { Settings.standard with
      matching := { Settings.standard.matching with termLogic := .or }
      output := ⟨"json", -1⟩ } := Outcome.optionOk (by decide +kernel)
  obtain ⟨safe, again⟩ := parses _ parsed
  have unread : SameSettings respelled ((.text "extra", .null) :: respelled) := by
    simp only [SameSettings, Config.fieldsRead, List.forall_mem_cons]
    exact ⟨Config.sameRefl _ _, Config.sameRefl _ _, Config.sameRefl _ _, Config.sameRefl _ _,
      Config.sameRefl _ _, fun _ member => absurd member List.not_mem_nil⟩
  exact ⟨_, parsed, rfl, rfl, safe, again, (same _ unread).trans parsed⟩

def permitting (typos : Nat) : Settings :=
  { Settings.standard with matching := { Settings.standard.matching with maxTypos := typos } }

theorem permittingChecked (typos : Nat) : Checked (permitting typos) :=
  { Config.standardChecked with budget := Int.natCast_nonneg typos }

theorem permittingRefused : (decideMatch (permitting Plan.lastBudget).matching "abcdef" ["abcdef"] {}).run =
    (.error .tooLarge, []) := by
  have policy : Policy.ofValues "match_logic" (.text Logic.and.word) (.int Plan.lastBudget) =
      .ok ⟨.and, Plan.lastBudget⟩ := Policy.ofValuesOk.mpr ⟨rfl, rfl⟩
  have overflows : (Plan.termsOf (Policy.ofValues "match_logic" (.text Logic.and.word) (.int Plan.lastBudget))
      (.ok ["abcdef"]) : Except Fault (TermSet String Binary64)) = .error .tooLarge := by
    rw [policy]
    exact @Plan.termsOverflow ⟨.and, Plan.lastBudget⟩ ["abcdef"] _ List.mem_cons_self (by decide)
      (Nat.ne_of_gt Plan.lastBudgetPositive) Plan.lastBudgetBeyond
  have named : Measure.ofValue (.text (permitting Plan.lastBudget).matching.scorer) = .ok .partialRatio := rfl
  have asked : Query.termsOf (.text "abcdef") = .ok ["abcdef"] := rfl
  rw [decideMatch, Matching.settledRun, named]
  exact Matching.queryRefused Measure.partialRatio.scorer asked overflows (some "abcdef")

def misplacedLog : Settings :=
  { Settings.standard with log := ⟨"INFO", true, "cfg.yml"⟩ }

theorem misplacedChecked : Checked misplacedLog :=
  { Config.standardChecked with level := by decide +kernel, dir := by decide +kernel }

/-- A budget that converts, though not with the typo that a long term gets; and a log below what is a file. -/
theorem permittingOverflows :
    (Settings.ofValue (permitting Plan.lastBudget).toValue = .ok (permitting Plan.lastBudget) ∧
      (Binary64.ofInt? (permitting Plan.lastBudget).matching.maxTypos).isSome ∧
      (Binary64.ofInt? (permitting Plan.lastBudget).clause.maxTypos).isSome ∧
      (∀ t ∈ Query.terms "abcdef", (Binary64.ofInt? t.length).isSome) ∧
      ∀ (disk : Disk Id) (stamp : String),
        (execute disk (permitting Plan.lastBudget) stamp (.decide "abcdef" ["abcdef"] {})).exitCode = 1) ∧
    (Settings.ofValue misplacedLog.toValue = .ok misplacedLog ∧
      (∀ t ∈ Query.terms "abcdef", Plan.Converts misplacedLog.matching.maxTypos.toNat t ∧
        Plan.Converts misplacedLog.clause.maxTypos.toNat t) ∧
      ∀ (disk : Disk Id) (stamp : String), disk.isFile "cfg.yml" = true →
        (execute disk misplacedLog stamp (.decide "abcdef" ["abcdef"] {})).escaped =
          some (.notDirectory "cfg.yml/match") ∧
        (execute disk misplacedLog stamp (.clause "abcdef" ["name"] none {})).escaped =
          some (.notDirectory "cfg.yml/clause")) := by
  have one : (Binary64.ofInt? (permitting Plan.lastBudget).clause.maxTypos).isSome := by decide +kernel
  have converts : ∀ t ∈ Query.terms "abcdef", Plan.Converts 1 t := by
    unfold Plan.Converts
    decide +kernel
  refine ⟨⟨Config.reread (permittingChecked Plan.lastBudget), Plan.lastBudgetConverts, one, by decide +kernel,
    fun disk stamp => ?_⟩, Config.reread misplacedChecked, fun t member => ⟨converts t member, converts t member⟩, ?_⟩
  · have traced := endsTraced (m := Id) (decideMatch (permitting Plan.lastBudget).matching "abcdef" ["abcdef"] {})
    rw [permittingRefused] at traced
    have fails : Ends (runDecide (permitting Plan.lastBudget).matching "abcdef" ["abcdef"] {} : Work Id String)
        (.error .tooLarge) := endsFailed traced _
    have kept : logObstacle disk (logSetup (permitting Plan.lastBudget).log "match") stamp = pure none := rfl
    obtain ⟨o, executed, _, code, _⟩ := executeEnds (c := .decide "abcdef" ["abcdef"] {}) kept fails
    exact (congrArg Outcome.exitCode executed).trans code
  · intro disk stamp file
    have blocked (name : String) (clear : Text.holdsNull name = false) (above : Text.ancestors name = ["cfg.yml"]) :
        obstacle disk name = some (.notDirectory name) := obstacleAbove clear above file
    exact ⟨congrArg Outcome.escaped (executeUnlogged rfl (blocked "cfg.yml/match" (by decide) (by decide +kernel))),
      congrArg Outcome.escaped (executeUnlogged rfl (blocked "cfg.yml/clause" (by decide) (by decide +kernel)))⟩

end TypoSearch.Cli
