import Mathlib.Data.String.Basic
import TypoSearch.Proofs.Query
import TypoSearch.Proofs.Sql.Agreement
import TypoSearch.Store.Search

/-! What a search returns. The names and the limit are settled first, by the database alone; then the
arguments of the query; then the statement is written. It selects the rows that evaluation matches. -/
namespace TypoSearch.Store
open Number (Binary64)
open Outcome (unlessOk)
open Similarity (Scorer)
open Sql

def Request.ofTexts (table : String) (columns : List String) (limit : Option Int)
    (query budget termLogic columnLogic : Value) : Request :=
  ⟨.text table, .texts columns, query, budget, termLogic, columnLogic, limit⟩

namespace Statement

def ReadAs (s : Statement) (e : Expression) : Prop :=
  ∃ ts, tokens Dialect.sqlite.quoting s.text.toList =
      some ([.word "SELECT", .mark '*', .word "FROM", .name s.table, .word "WHERE"] ++ ts ++
        if s.limit.isSome then [.word "LIMIT", .mark '?'] else []) ∧
    parse ts = some e

theorem properReadAs {s : Statement} (proper : s.clause.predicate.Proper)
    (text : s.clause.text = s.clause.predicate.text .sqlite) : s.ReadAs s.clause.predicate.expression := by
  obtain ⟨ts, clause, parsed⟩ := predicateParsed proper
  refine ⟨ts, ?_, parsed⟩
  have head : tokens Dialect.sqlite.quoting "SELECT * FROM".toList =
      some [.word "SELECT", .mark '*', .word "FROM"] := by decide
  have keyword : tokens Dialect.sqlite.quoting "WHERE".toList = some [.word "WHERE"] := by decide
  have limit : tokens Dialect.sqlite.quoting "LIMIT ?".toList = some [.word "LIMIT", .mark '?'] := by decide
  have name : tokens Dialect.sqlite.quoting (Dialect.sqlite.identifier s.table).toList = some [.name s.table] :=
    identifierRead Dialect.sqlite.quoting s.table
  have whole := blankBetweenRead (blankBetweenRead head name) (blankBetweenRead keyword clause)
  unfold Statement.text
  rw [text]
  cases s.limit with
  | none => simpa using whole
  | some n => simpa using blankBetweenRead whole limit

end Statement

namespace Database

def Misdirected (db : Database) (table : String) (columns : List String) (limit : Option Int) : Prop :=
  db.columns? table = none ∨
    (∃ known, db.columns? table = some known ∧ ∃ c ∈ columns, c ∉ known) ∨ ∃ n ≤ 0, limit = some n

section
variable {table : String} {known columns : List String}

theorem knownText (c : String) : isKnown known (.text c) = true ↔ c ∈ known := by
  rw [isKnown, List.contains_iff_mem]

theorem checkColumnsKnown (all : ∀ c ∈ columns, c ∈ known) :
    checkColumns table known (columns.map Value.text) = .ok () := by
  have none : (columns.map Value.text).filter (fun c => !isKnown known c) = [] := by
    rw [List.filter_eq_nil_iff]
    intro v member
    obtain ⟨c, inside, rfl⟩ := List.mem_map.mp member
    simp [knownText, all c inside]
  rw [checkColumns, none]

theorem checkColumnsUnknown (table : String) {c : String} (member : c ∈ columns) (unknown : c ∉ known) :
    ∃ f, f.blamesValue = true ∧ checkColumns table known (columns.map Value.text) = .error f := by
  have found : Value.text c ∈ (columns.map Value.text).filter fun v => !isKnown known v := by
    rw [List.mem_filter]
    refine ⟨List.mem_map_of_mem member, ?_⟩
    rw [Bool.not_eq_true', Bool.eq_false_iff]
    exact mt (knownText c).mp unknown
  unfold checkColumns
  split
  · rename_i none
    rw [none] at found
    cases found
  · exact ⟨_, Fault.raisedBlames rfl, rfl⟩

end

section
variable {db : Database} {table : String} {known columns : List String}
variable {limit : Option Int} {query budget termLogic columnLogic : Value} {terms : List String}

theorem prepareFound (found : db.columns? table = some known) :
    db.prepare (.ofTexts table columns limit query budget termLogic columnLogic) = do
      checkColumns table known (columns.map Value.text)
      let limit ← checkLimit limit
      let clause ← Clause.ofColumnsQuery .sqlite (.ok (columns.map Value.text)) query budget termLogic
        columnLogic
      return ⟨table, known, clause, limit⟩ := by
  unfold prepare knownColumns Request.ofTexts
  simp only [found]
  rfl

theorem misdirectedPrepare (misdirected : db.Misdirected table columns limit) :
    ∃ f, f.blamesValue = true ∧ ∀ query budget termLogic columnLogic,
      db.prepare (.ofTexts table columns limit query budget termLogic columnLogic) = .error f := by
  cases found : db.columns? table with
  | none =>
    refine ⟨.unknownTable (.text table), rfl, fun query budget termLogic columnLogic => ?_⟩
    unfold prepare knownColumns Request.ofTexts
    simp only [found]
    rfl
  | some known =>
    by_cases all : ∀ c ∈ columns, c ∈ known
    · rcases misdirected with none | ⟨other, same, c, member, unknown⟩ | ⟨n, low, rfl⟩
      · rw [none] at found
        cases found
      · rw [same] at found
        cases found
        exact absurd (all c member) unknown
      · refine ⟨.limit, rfl, fun query budget termLogic columnLogic => ?_⟩
        rw [prepareFound found, checkColumnsKnown all, checkLimit, if_pos low]
        rfl
    · push Not at all
      obtain ⟨c, member, unknown⟩ := all
      obtain ⟨f, blames, refused⟩ := checkColumnsUnknown table member unknown
      refine ⟨f, blames, fun query budget termLogic columnLogic => ?_⟩
      rw [prepareFound found, refused]
      rfl

theorem directedPrepare (directed : ¬db.Misdirected table columns limit)
    (found : db.columns? table = some known) :
    db.prepare (.ofTexts table columns limit query budget termLogic columnLogic) = do
      let clause ← Clause.ofColumnsQuery .sqlite (.ok (columns.map Value.text)) query budget termLogic
        columnLogic
      return ⟨table, known, clause, limit.map Int.toNat⟩ := by
  have all : ∀ c ∈ columns, c ∈ known := by
    intro c member
    refine Decidable.byContradiction fun unknown => ?_
    exact directed (.inr (.inl ⟨known, found, c, member, unknown⟩))
  have limited : checkLimit limit = .ok (limit.map Int.toNat) := by
    cases limit with
    | none => rfl
    | some n =>
      have positive : ¬n ≤ 0 := fun low => directed (.inr (.inr ⟨n, low, rfl⟩))
      rw [checkLimit, if_neg positive]
      rfl
  rw [prepareFound found, checkColumnsKnown all, limited]
  rfl

theorem directedKnown (found : db.columns? table = some known) (all : ∀ c ∈ columns, c ∈ known)
    (positive : ∀ n, limit = some n → 0 < n) : ¬db.Misdirected table columns limit := by
  rintro (none | ⟨other, same, c, member, unknown⟩ | ⟨n, low, given⟩)
  · rw [none] at found
    cases found
  · rw [same] at found
    cases found
    exact unknown (all c member)
  · have above := positive n given
    omega

theorem overflowPrepare (directed : ¬db.Misdirected table columns limit) (asked : Query.termsOf query = .ok terms)
    {policy : ColumnPolicy} (settled : ColumnPolicy.ofValues columnLogic termLogic budget = .ok policy)
    {t : String} (member : t ∈ terms) (long : trigramLength ≤ t.length) (nonzero : policy.terms.typos ≠ 0)
    (beyond : ¬Plan.Converts policy.terms.typos t) :
    db.prepare (.ofTexts table columns limit query budget termLogic columnLogic) = .error .tooLarge := by
  cases found : db.columns? table with
  | none => exact absurd (.inl found) directed
  | some known =>
    rw [directedPrepare directed found, ofColumnsQueryAsked _ _ asked]
    unfold Clause.ofColumns Plan.columnsOf
    rw [settled]
    change (Plan.columns policy terms >>= _) >>= _ = _
    rw [Plan.columnsOverflow member long nonzero beyond]
    rfl

end

def matchesRow (scorer : Scorer Binary64) (known columns : List String)
    (query budget termLogic columnLogic : Value) (row : List Cell) : Bool :=
  let targets := columns.map (textAt known row)
  (Matching.matchColumnsQuery (π := String) (Matching.recorded scorer) query budget termLogic columnLogic
    (.ok targets)).run.1.toOption == some true

def holdsOf (scorer : Scorer Binary64) (reading : String → Binary64) (known : List String)
    (e : Expression) (row : List Cell) : Bool :=
  e.eval scorer reading (textAt known row) == some (.truth true)

def plannedStatement (table : String) (known columns : List String) (limit : Option Int)
    (plan : ColumnSet String Binary64) : Statement :=
  let predicate := Predicate.ofColumnSet plan columns
  let clause := ⟨predicate, predicate.text .sqlite, plan.termSet.checks.length, columns.length⟩
  ⟨table, known, clause, limit.map Int.toNat⟩

section
variable {db : Database} {table : String} {known columns : List String}
variable {limit : Option Int} {query budget termLogic columnLogic : Value} {terms : List String}
variable {plan : ColumnSet String Binary64}

theorem plannedPrepare (directed : ¬db.Misdirected table columns limit)
    (found : db.columns? table = some known) (asked : Query.termsOf query = .ok terms)
    (planned : Plan.columnsOf (ColumnPolicy.ofValues columnLogic termLogic budget) (.ok terms) = .ok plan)
    (named : terms = [] ∨ ∀ c ∈ columns, c ≠ "") :
    db.prepare (.ofTexts table columns limit query budget termLogic columnLogic) =
      .ok (plannedStatement table known columns limit plan) := by
  rw [directedPrepare directed found, ofColumnsQueryAsked _ _ asked, Clause.ofColumnsText planned named]
  rfl

theorem plannedReadAs {policy : ColumnPolicy} (made : Plan.Planned policy terms plan) :
    (plannedStatement table known columns limit plan).ReadAs
      (Predicate.ofColumnSet plan columns).expression :=
  Statement.properReadAs (Predicate.ofColumnSetProper (Plan.plannedBounded made) columns) rfl

end

def Refused (db : Database) (table : String) (columns : List String) (limit : Option Int)
    (budget termLogic columnLogic : Value) (terms : List String) : Prop :=
  db.Misdirected table columns limit ∨ ColumnPolicy.Invalid columnLogic termLogic budget ∨
    (terms ≠ [] ∧ "" ∈ columns)

section
variable (db : Database) (table : String) (columns : List String)
variable (limit : Option Int) (query budget termLogic columnLogic : Value) {terms : List String}

theorem refusedPrepare (asked : Query.termsOf query = .ok terms)
    (converts : ∀ typos : Nat, budget = .int typos → ∀ t ∈ terms, Plan.Converts typos t)
    (refused : db.Refused table columns limit budget termLogic columnLogic terms) :
    ∃ f, db.prepare (.ofTexts table columns limit query budget termLogic columnLogic) = .error f ∧
      f.blamesValue = true := by
  by_cases misdirected : db.Misdirected table columns limit
  · obtain ⟨f, blames, here⟩ := misdirectedPrepare misdirected
    exact ⟨f, here query budget termLogic columnLogic, blames⟩
  · have compiles : ∃ f, Clause.ofColumnsQuery .sqlite (.ok (columns.map Value.text)) query budget termLogic
        columnLogic = .error f ∧ f.blamesValue = true := by
      rw [ofColumnsQueryAsked _ _ asked]
      by_cases invalid : ColumnPolicy.Invalid columnLogic termLogic budget
      · exact Clause.ofColumnsInvalid invalid
      · obtain ⟨hasTerms, unnamed⟩ := (refused.resolve_left misdirected).resolve_left invalid
        obtain ⟨plan, planned⟩ := Plan.validPlanned invalid converts
        exact ⟨_, Clause.ofColumnsUnnamed planned hasTerms unnamed, rfl⟩
    obtain ⟨f, failed, blames⟩ := compiles
    cases found : db.columns? table with
    | none => exact absurd (.inl found) misdirected
    | some known =>
      refine ⟨f, ?_, blames⟩
      rw [directedPrepare misdirected found, failed]
      rfl

theorem acceptedPrepare (asked : Query.termsOf query = .ok terms)
    (converts : ∀ typos : Nat, budget = .int typos → ∀ t ∈ terms, Plan.Converts typos t)
    (free : ¬db.Refused table columns limit budget termLogic columnLogic terms) :
    ∃ known plan, db.columns? table = some known ∧
      Plan.columnsOf (ColumnPolicy.ofValues columnLogic termLogic budget) (.ok terms) = .ok plan ∧
      db.prepare (.ofTexts table columns limit query budget termLogic columnLogic) =
        .ok (plannedStatement table known columns limit plan) := by
  simp only [Refused, not_or] at free
  obtain ⟨directed, valid, written⟩ := free
  obtain ⟨plan, planned⟩ := Plan.validPlanned valid converts
  have named : terms = [] ∨ ∀ c ∈ columns, c ≠ "" := by
    by_cases hasTerms : terms = []
    · exact .inl hasTerms
    · refine .inr fun c member empty => written ⟨hasTerms, ?_⟩
      rw [← empty]
      exact member
  cases found : db.columns? table with
  | none => exact absurd (.inl found) directed
  | some known => exact ⟨known, plan, rfl, planned, plannedPrepare directed found asked planned named⟩

end
end Database

namespace Session
open Database

theorem prepareOpen {s : Session} (isOpen : s.isOpen = true) (r : Request) : s.prepare r = s.database.prepare r := by
  unfold prepare ensureOpen
  rw [isOpen]
  rfl

theorem runAccepted {s : Session} {t : Statement} (accepted : s.accepts t = .ok ()) : s.run t = .ok (s.select t) := by
  unfold run
  rw [accepted]
  rfl

theorem runRefused {s : Session} {t : Statement} {f : Fault} (refused : s.accepts t = .error f) :
    s.run t = .error f := by
  unfold run
  rw [refused]
  rfl

theorem acceptsOk {s : Session} {t : Statement} : s.accepts t = .ok () ↔
    t.text.utf8ByteSize ≤ longestStatement ∧ '\x00' ∉ t.text.toList ∧ t.clause.predicate.height ≤ highestTree ∧
      (t.clause.predicate.usesSimilarity = true → sameName s.functionName wordSimilarity = true) ∧
      ∀ n, t.limit = some n → fitsInteger n = true := by
  unfold accepts
  rw [unlessOk, unlessOk, unlessOk, unlessOk, unlessOk]
  simp [Option.any_eq_false]

theorem acceptsError {s : Session} {t : Statement} {f : Fault} (refused : s.accepts t = .error f) :
    f.blamesValue = false := by
  unfold accepts at refused
  repeat
    split at refused
    · cases refused
      rfl
  cases refused

theorem runUnblamed {s : Session} {t : Statement} {f : Fault} (failed : s.run t = .error f) :
    f.blamesValue = false := by
  cases verdict : s.accepts t with
  | ok _ =>
    rw [runAccepted verdict] at failed
    cases failed
  | error g =>
    rw [runRefused verdict] at failed
    cases failed
    exact acceptsError verdict

def Unshadowed (known columns terms : List String) : Prop :=
  terms = [] ∨ columns = [] → ∀ value, ∀ c ∈ known, sameName (Dialect.sqlite.constant value) c = false

theorem constantPlain {known : List String} {value : Bool}
    (clear : ∀ c ∈ known, sameName (Dialect.sqlite.constant value) c = false) (row : List Cell) :
    constantAt known row value = some value := by
  have none : (known.zip row).find? (fun p => sameName (Dialect.sqlite.constant value) p.1) = none := by
    rw [List.find?_eq_none]
    intro p member
    simp [clear p.1 (List.of_mem_zip member).1]
  rw [constantAt, none]

section
variable (s : Session) {table : String} {known columns terms : List String} {limit : Option Int}
variable {query budget termLogic columnLogic : Value} {plan : ColumnSet String Binary64} {policy : ColumnPolicy}

theorem selectsPlain (made : Plan.Planned policy terms plan) (clear : Unshadowed known columns terms)
    (row : List Cell) :
    (Predicate.ofColumnSet plan columns).selects s.scorer (s.binding known row) =
      (Predicate.ofColumnSet plan columns).selects s.scorer
        ⟨textAt known row, some, fun x => s.numeral x.plainText⟩ := by
  have alike : (Predicate.ofColumnSet plan columns).Alike (s.binding known row)
      ⟨textAt known row, some, fun x => s.numeral x.plainText⟩ :=
    Predicate.ofColumnSetAlike plan columns rfl (fun _ _ _ _ => rfl) fun none value =>
      constantPlain (clear (none.imp_left (Plan.plannedEmpty made).mp) value) row
  rw [Predicate.selects, Predicate.selects, Predicate.evalAlike s.scorer alike]

theorem selectHolds (made : Plan.Planned policy terms plan) (clear : Unshadowed known columns terms) :
    s.select (plannedStatement table known columns limit plan) =
      limited (limit.map Int.toNat) (((s.database.rows? table).getD []).filter
        (holdsOf s.scorer s.numeral known (Predicate.ofColumnSet plan columns).expression)) := by
  have same : holdsOf s.scorer s.numeral known (Predicate.ofColumnSet plan columns).expression =
      fun row => (Predicate.ofColumnSet plan columns).selects s.scorer (s.binding known row) := by
    funext row
    have proper := Predicate.ofColumnSetProper (Plan.plannedBounded made) columns
    rw [selectsPlain s made clear, holdsOf, Predicate.selects,
      Predicate.expressionEval s.scorer (textAt known row) proper]
    rcases (Predicate.ofColumnSet plan columns).eval s.scorer _ with _ | _ | _ <;> rfl
  rw [same]
  rfl

theorem selectMatches (asked : Query.termsOf query = .ok terms)
    (planned : Plan.columnsOf (ColumnPolicy.ofValues columnLogic termLogic budget) (.ok terms) = .ok plan)
    (hasTerms : terms ≠ []) (clear : Unshadowed known columns terms) (kept : CutoffsKept s.numeral plan) :
    s.select (plannedStatement table known columns limit plan) =
      limited (limit.map Int.toNat) (((s.database.rows? table).getD []).filter
        (matchesRow s.scorer known columns query budget termLogic columnLogic)) := by
  obtain ⟨policy, _, made⟩ := Plan.columnsOfOk.mp planned
  have same : matchesRow s.scorer known columns query budget termLogic columnLogic =
      fun row => (Predicate.ofColumnSet plan columns).selects s.scorer (s.binding known row) := by
    funext row
    have truth : (Predicate.ofColumnSet plan columns).eval s.scorer (.plain (textAt known row)) = some true ↔
        Matching.matchesColumns s.scorer plan (columns.map (textAt known row)) = true :=
      Predicate.ofColumnSetTrue s.scorer (textAt known row) (.inl (mt (Plan.plannedEmpty made).mp hasTerms))
    rw [selectsPlain s made clear, Predicate.selects, Predicate.evalKept s.scorer _ _ kept, matchesRow]
    rw [Matching.columnsQueryAnswer s.scorer asked planned, Bool.eq_iff_iff, beq_iff_eq, beq_iff_eq, truth]
    simp [Except.toOption]
  rw [same]
  rfl

theorem emptyWord (columns : List String) (settled : ColumnPolicy.ofValues columnLogic termLogic budget = .ok policy)
    (made : Plan.Planned policy terms plan) :
    (if columns = [] then columnLogic else termLogic) =
      .text (if columns = [] then plan.logic else plan.termSet.logic).word := by
  obtain ⟨columnWord, termWord, _⟩ := ColumnPolicy.ofValuesOk.mp settled
  rw [made.columnLogic, made.termLogic]
  split
  · exact columnWord
  · exact termWord

theorem selectEmpty (made : Plan.Planned policy terms plan) (noTerms : terms = [])
    (clear : Unshadowed known columns terms) :
    s.select (plannedStatement table known columns limit plan) =
      limited (limit.map Int.toNat)
        (if (if columns = [] then plan.logic else plan.termSet.logic).neutral then (s.database.rows? table).getD []
          else []) := by
  have kept : s.select (plannedStatement table known columns limit plan) =
      limited (limit.map Int.toNat) (((s.database.rows? table).getD []).filter fun row =>
        (Predicate.ofColumnSet plan columns).selects s.scorer (s.binding known row)) := rfl
  have same : (fun row => (Predicate.ofColumnSet plan columns).selects s.scorer (s.binding known row)) =
      fun _ => (if columns = [] then plan.logic else plan.termSet.logic).neutral := by
    funext row
    have none : plan.termSet.checks = [] := (Plan.plannedEmpty made).mpr noTerms
    have alike : (Predicate.ofColumnSet plan columns).Alike (s.binding known row) (.plain (textAt known row)) :=
      Predicate.ofColumnSetAlike plan columns rfl (fun t member => by simp [none] at member)
        fun _ value => constantPlain (clear (.inl noTerms) value) row
    rw [Predicate.selects, Predicate.evalAlike s.scorer alike,
      Predicate.ofColumnSetEmpty s.scorer (textAt known row) none]
    split <;> simp
  rw [kept, same]
  cases (if columns = [] then plan.logic else plan.termSet.logic).neutral with
  | true => rw [List.filter_true, if_pos rfl]
  | false => rw [List.filter_false, if_neg Bool.false_ne_true]

end

/-- A search is refused for the names and the limit whatever is searched for. A search that is not refused is one
statement, which the engine may have something against. Otherwise it returns rows of the table in order: those on
which the condition of the statement is true, which are those that evaluation matches if there is a term. -/
theorem searchSelects {s : Session} (isOpen : s.isOpen = true) (table : String) (columns : List String)
    (limit : Option Int) (query budget termLogic columnLogic : Value) {terms : List String}
    (asked : Query.termsOf query = .ok terms)
    (converts : ∀ typos : Nat, budget = .int typos → ∀ t ∈ terms, Plan.Converts typos t) :
    ((∃ f, (s.prepare (.ofTexts table columns limit query budget termLogic columnLogic) >>= s.run) = .error f ∧
        f.blamesValue = true) ↔
      s.database.Refused table columns limit budget termLogic columnLogic terms) ∧
    (s.database.Misdirected table columns limit → ∃ f, ∀ query budget termLogic columnLogic,
      s.prepare (.ofTexts table columns limit query budget termLogic columnLogic) = .error f) ∧
    (¬s.database.Refused table columns limit budget termLogic columnLogic terms → ∃ known t e,
      s.database.columns? table = some known ∧
      s.prepare (.ofTexts table columns limit query budget termLogic columnLogic) = .ok t ∧
      t.table = table ∧ t.limit = limit.map Int.toNat ∧ t.ReadAs e ∧
      (∀ f, s.accepts t = .error f → s.run t = .error f ∧ f.blamesValue = false) ∧
      (s.accepts t = .ok () → Unshadowed known columns terms →
        s.run t = .ok (limited (limit.map Int.toNat)
          (((s.database.rows? table).getD []).filter (holdsOf s.scorer s.numeral known e))) ∧
        (terms ≠ [] →
          (∀ plan, Plan.columnsOf (ColumnPolicy.ofValues columnLogic termLogic budget) (.ok terms) = .ok plan →
            CutoffsKept s.numeral plan) →
          s.run t = .ok (limited (limit.map Int.toNat) (((s.database.rows? table).getD []).filter
            (matchesRow s.scorer known columns query budget termLogic columnLogic)))) ∧
        (terms = [] → ∃ l : Logic, (if columns = [] then columnLogic else termLogic) = .text l.word ∧
          s.run t = .ok (limited (limit.map Int.toNat)
            (if l.neutral then (s.database.rows? table).getD [] else []))))) := by
  have accepted := acceptedPrepare s.database table columns limit query budget termLogic columnLogic asked converts
  simp only [prepareOpen isOpen]
  refine ⟨⟨?_, ?_⟩, ?_, ?_⟩
  · rintro ⟨f, failed, blames⟩
    refine Classical.byContradiction fun free => ?_
    obtain ⟨known, plan, _, _, prepared⟩ := accepted free
    rw [prepared, Outcome.okBind] at failed
    rw [runUnblamed failed] at blames
    cases blames
  · intro refused
    obtain ⟨f, failed, blames⟩ :=
      refusedPrepare s.database table columns limit query budget termLogic columnLogic asked converts refused
    exact ⟨f, Outcome.bindError.mpr (.inl failed), blames⟩
  · intro misdirected
    obtain ⟨f, _, failed⟩ := misdirectedPrepare misdirected
    exact ⟨f, failed⟩
  · intro free
    obtain ⟨known, plan, found, planned, prepared⟩ := accepted free
    obtain ⟨policy, settled, made⟩ := Plan.columnsOfOk.mp planned
    refine ⟨known, _, _, found, prepared, rfl, rfl, plannedReadAs made, ?_, ?_⟩
    · exact fun f refused => ⟨runRefused refused, acceptsError refused⟩
    · intro taken clear
      rw [runAccepted taken]
      refine ⟨congrArg Except.ok (selectHolds s made clear), ?_, ?_⟩
      · intro hasTerms kept
        exact congrArg Except.ok (selectMatches s asked planned hasTerms clear (kept plan planned))
      · intro noTerms
        exact ⟨_, emptyWord columns settled made, congrArg Except.ok (selectEmpty s made noTerms clear)⟩

def oddTables : Database :=
  ⟨[⟨"t", [""], [[.text "abc"]]⟩, ⟨"u", ["a"], [[.text "abcdef"]]⟩, ⟨"v", ["true"], [[.text "abc"]]⟩], []⟩

def oddSession : Session := { database := oddTables, measure := .partialRatio }

/-! A numeral that is read as its neighbour: the cutoff of a term of 252 characters under a budget of 72. -/

def monotonous (n : Nat) : String := String.ofList (List.replicate n 'b')

theorem monotonousLength (n : Nat) : (monotonous n).length = n := by
  rw [monotonous, String.length_ofList, List.length_replicate]

theorem monotonousAsked {n : Nat} (some : 0 < n) : Query.termsOf (.text (monotonous n)) = .ok [monotonous n] := by
  have letters : ∀ c ∈ List.replicate n 'b', Text.isBlank c = false := by
    intro c member
    rw [List.eq_of_mem_replicate member]
    decide
  have nonempty : List.replicate n 'b' ≠ [] := List.ne_nil_of_length_pos (by rwa [List.length_replicate])
  rw [Query.termsOf, Query.terms, monotonous, String.toList_ofList, Text.words, Text.wordsAlone nonempty letters]
  rfl

def exactCutoff : Binary64 := .finite false (4964598014424169 <<< 1019)

def monotonousPlan (n : Nat) : ColumnSet String Binary64 :=
  ⟨.and, ⟨.or, [⟨monotonous n, .similarity exactCutoff⟩]⟩⟩

theorem monotonousPlanned {n : Nat} (size : n = 252) :
    Plan.columnsOf (ColumnPolicy.ofValues (.text "AND") (.text "OR") (.int 72)) (.ok [monotonous n]) =
      .ok (monotonousPlan n) := by
  have made : Cutoff.ofLength (monotonous n).length (72 + extraTypos (monotonous n).length) = .ok exactCutoff := by
    rw [monotonousLength, size]
    exact Outcome.optionOk (by decide +kernel)
  have least : trigramLength ≤ (monotonous n).length := by
    rw [monotonousLength, size]
    decide
  exact Plan.columnsOfOk.mpr ⟨⟨.and, ⟨.or, 72⟩⟩, rfl, rfl, rfl, .cons (.similarity least (by decide) made) .nil⟩

def monotonousStatement (n : Nat) : Statement := plannedStatement "u" ["a"] ["a"] none (monotonousPlan n)

theorem monotonousText (n : Nat) : (monotonousStatement n).text.toList =
    "SELECT * FROM ".toList ++ (Dialect.sqlite.identifier "u").toList ++ " WHERE ".toList ++
      ("(".toList ++ ("(".toList ++
        ("word_similarity".toList ++ "(".toList ++ Dialect.sqlite.quoting.literalChars (List.replicate n 'b') ++
          ", ".toList ++ (Dialect.sqlite.identifier "a").toList ++ ") >= ".toList ++ exactCutoff.plainText.toList) ++
        ")".toList) ++ ")".toList) := by
  have text : (monotonousStatement n).text = "SELECT * FROM " ++ Dialect.sqlite.identifier "u" ++ " WHERE " ++
      ("(" ++ ("(" ++ ("word_similarity" ++ "(" ++
        String.ofList (Dialect.sqlite.quoting.literalChars (monotonous n).toList) ++ ", " ++
          Dialect.sqlite.identifier "a" ++ ") >= " ++ exactCutoff.plainText) ++ ")") ++ ")") ++ "" := rfl
  rw [text]
  simp only [String.toList_append, String.toList_ofList, monotonous, String.append_empty]

def misreading : Session :=
  { oddSession with
    scorer := fun _ _ => exactCutoff
    numeral := fun s =>
      if s = "0.1377952755905512" then .finite false (4964598014424170 <<< 1019) else Number.numeral s }

theorem misreadingAccepts {n : Nat} (size : n = 252) : misreading.accepts (monotonousStatement n) = .ok () := by
  have bytes (s : String) : s.utf8ByteSize = String.utf8Len s.toList := by
    rw [← String.utf8ByteSize_ofList, String.ofList_toList]
  have written : (monotonousStatement n).text.utf8ByteSize ≤ longestStatement ∧
      '\x00' ∉ (monotonousStatement n).text.toList := by
    rw [bytes, monotonousText, size]
    decide +kernel
  have low : (monotonousStatement n).clause.predicate.height ≤ highestTree := by
    rw [size]
    decide +kernel
  exact acceptsOk.mpr ⟨written.1, written.2, low, fun _ => by decide, nofun⟩

theorem misreadingDrops {n : Nat} (size : n = 252) :
    matchesRow misreading.scorer ["a"] ["a"] (.text (monotonous n)) (.int 72) (.text "OR") (.text "AND")
        [.text "abcdef"] = true ∧
      (misreading.prepare (.ofTexts "u" ["a"] none (.text (monotonous n)) (.int 72) (.text "OR") (.text "AND")) >>=
        misreading.run) = .ok [] := by
  have asked := monotonousAsked (n := n) (by omega)
  have directed : ¬oddTables.Misdirected "u" ["a"] none := directedKnown rfl (by simp) nofun
  have prepared : oddTables.prepare (.ofTexts "u" ["a"] none (.text (monotonous n)) (.int 72) (.text "OR")
      (.text "AND")) = .ok (monotonousStatement n) :=
    plannedPrepare directed rfl asked (monotonousPlanned size) (.inr (by decide))
  have dropped : misreading.select (monotonousStatement n) = [] := by
    rw [size]
    decide +kernel
  refine ⟨?_, ?_⟩
  · rw [matchesRow, Matching.columnsQueryAnswer misreading.scorer asked (monotonousPlanned size), size]
    decide +kernel
  · have same : misreading.database = oddTables := rfl
    rw [prepareOpen rfl, same, prepared, Outcome.okBind, runAccepted (misreadingAccepts size), dropped]

/-- Searches that are wrong in none of the names, the limit and the arguments. The name of a column may be empty,
the typo that is added for a long term may take its budget out of the range of doubles, the limit may be no
integer of the engine, a column may have the name of a constant, and the engine may read a cutoff as another. -/
theorem directedRefused :
    (¬oddTables.Misdirected "t" [""] none ∧ ¬ColumnPolicy.Invalid (.text "AND") (.text "OR") (.int 0) ∧
      oddSession.prepare (.ofTexts "t" [""] none (.text "ab") (.int 0) (.text "OR") (.text "AND")) =
        .error (.columnName (.text ""))) ∧
    (∃ typos : Nat, typos = (1 <<< 1024) - (1 <<< 970) - 1 ∧ (Binary64.ofInt? typos).isSome ∧
      ¬oddTables.Misdirected "u" ["a"] none ∧ ¬ColumnPolicy.Invalid (.text "AND") (.text "OR") (.int typos) ∧
      oddSession.prepare (.ofTexts "u" ["a"] none (.text "abcdef") (.int typos) (.text "OR") (.text "AND")) =
        .error .tooLarge) ∧
    (¬oddTables.Misdirected "u" ["a"] (some (1 <<< 63 : Nat)) ∧
      (oddSession.prepare (.ofTexts "u" ["a"] (some (1 <<< 63 : Nat)) (.text "ab") (.int 0) (.text "OR")
        (.text "AND")) >>= oddSession.run) = .error .integerRange) ∧
    (¬oddTables.Misdirected "v" [] none ∧
      matchesRow oddSession.scorer ["true"] [] (.text "ab") (.int 0) (.text "OR") (.text "AND") [.text "abc"] = true ∧
      (oddSession.prepare (.ofTexts "v" [] none (.text "ab") (.int 0) (.text "OR") (.text "AND")) >>=
        oddSession.run) = .ok []) ∧
    ∃ n, n = 252 ∧ matchesRow misreading.scorer ["a"] ["a"] (.text (monotonous n)) (.int 72) (.text "OR")
        (.text "AND") [.text "abcdef"] = true ∧
      (misreading.prepare (.ofTexts "u" ["a"] none (.text (monotonous n)) (.int 72) (.text "OR") (.text "AND")) >>=
        misreading.run) = .ok [] := by
  have settled (typos : Nat) : ColumnPolicy.ofValues (.text "AND") (.text "OR") (.int typos) =
      .ok ⟨.and, ⟨.or, typos⟩⟩ := rfl
  have valid (typos : Nat) : ¬ColumnPolicy.Invalid (.text "AND") (.text "OR") (.int typos) :=
    ColumnPolicy.validSettled.mpr ⟨_, settled typos⟩
  have unlimited (n : Int) : (none : Option Int) = some n → 0 < n := by rintro ⟨⟩
  have positive (n : Int) : some ((1 <<< 63 : Nat) : Int) = some n → 0 < n := by
    rintro ⟨⟩
    decide
  have beyond : ¬Plan.Converts ((1 <<< 1024) - (1 <<< 970) - 1) "abcdef" := by
    unfold Plan.Converts
    decide +kernel
  have nonzero : (1 <<< 1024) - (1 <<< 970) - 1 ≠ 0 := by decide +kernel
  have fits : (Binary64.ofInt? ((1 <<< 1024) - (1 <<< 970) - 1 : Nat)).isSome := by decide +kernel
  obtain ⟨typos, same⟩ : ∃ typos : Nat, typos = (1 <<< 1024) - (1 <<< 970) - 1 := ⟨_, rfl⟩
  rw [← same] at beyond nonzero fits
  have asked : Query.termsOf (.text "abcdef") = .ok ["abcdef"] := rfl
  have directed : ¬oddTables.Misdirected "u" ["a"] none := directedKnown rfl (by simp) unlimited
  have overflows := overflowPrepare directed asked (settled typos) List.mem_cons_self (by decide) nonzero beyond
  refine ⟨⟨directedKnown rfl (by simp) unlimited, valid 0, rfl⟩, ⟨typos, same, fits, directed, valid typos, ?_⟩,
    ⟨directedKnown rfl (by simp) positive, rfl⟩,
    ⟨directedKnown rfl (by simp) unlimited, by decide +kernel, rfl⟩, _, rfl, misreadingDrops rfl⟩
  rw [prepareOpen rfl]
  exact overflows

def people : Session :=
  { database := ⟨[⟨"people", ["id", "first \"name\"", "last"],
      [[.int 1, .text "Tom", .text "Baker"], [.int 2, .text "Chriss", .text "Gid"],
       [.int 3, .text "Anna", .null], [.int 4, .text "Chris", .text "Gidd"]]⟩], []⟩,
    measure := .partialRatio }

theorem peopleSearched :
    ∃ known t e, people.database.columns? "people" = some known ∧
      people.prepare (.ofTexts "people" ["first \"name\"", "last"] (some 5) (.text "Chris  Anna") (.int 1)
        (.text "OR") (.text "OR")) = .ok t ∧ t.ReadAs e ∧
      people.run t = .ok (limited (some 5) (((people.database.rows? "people").getD []).filter
        (matchesRow people.scorer known ["first \"name\"", "last"] (.text "Chris  Anna") (.int 1) (.text "OR")
          (.text "OR")))) := by
  have asked : Query.termsOf (.text "Chris  Anna") = .ok ["Chris", "Anna"] := rfl
  have converts : ∀ typos : Nat, Value.int 1 = .int typos → ∀ t ∈ ["Chris", "Anna"], Plan.Converts typos t := by
    intro typos same t member
    have one : typos = 1 := by
      rw [Value.int.injEq] at same
      omega
    subst one
    simp only [List.mem_cons, List.not_mem_nil, or_false] at member
    unfold Plan.Converts
    rcases member with rfl | rfl <;> decide +kernel
  have directed : ¬people.database.Misdirected "people" ["first \"name\"", "last"] (some 5) :=
    directedKnown rfl (by simp) (by rintro n ⟨⟩; decide)
  have valid : ¬ColumnPolicy.Invalid (.text "OR") (.text "OR") (.int 1) :=
    ColumnPolicy.validSettled.mpr ⟨⟨.or, ⟨.or, 1⟩⟩, rfl⟩
  have named : "" ∉ ["first \"name\"", "last"] := by decide
  obtain ⟨_, _, selects⟩ := searchSelects (s := people) rfl "people" ["first \"name\"", "last"] (some 5)
    (.text "Chris  Anna") (.int 1) (.text "OR") (.text "OR") asked converts
  obtain ⟨known, t, e, found, prepared, _, _, read, _, ran⟩ :=
    selects (not_or.mpr ⟨directed, not_or.mpr ⟨valid, fun written => named written.2⟩⟩)
  have accepted : people.accepts t = .ok () := by
    have taken : (people.prepare (.ofTexts "people" ["first \"name\"", "last"] (some 5) (.text "Chris  Anna")
        (.int 1) (.text "OR") (.text "OR")) >>= people.accepts) = .ok () := Outcome.optionOk (by decide +kernel)
    rwa [prepared, Outcome.okBind] at taken
  have clear : Unshadowed known ["first \"name\"", "last"] ["Chris", "Anna"] := by
    rintro (none | none) <;> cases none
  obtain ⟨_, selected, _⟩ := ran accepted clear
  refine ⟨known, t, e, found, prepared, read, selected (List.cons_ne_nil _ _) ?_⟩
  intro plan planned
  obtain ⟨_, _, made⟩ := Plan.columnsOfOk.mp planned
  exact cutoffsRead made

end Session
end TypoSearch.Store
