import Mathlib.Data.List.Nodup
import Mathlib.Logic.Relation
import TypoSearch.Proofs.Store.Selection
import TypoSearch.Proofs.Value

/-! Sessions from step to step. Seeding keeps the names of a database apart and its rows in shape, and it only adds
to what is stored. So a search that is answered once is answered ever after, with the same rows in front. -/
namespace TypoSearch.Store
open Outcome (bindOk okBind pureOk unlessOk)
open Sql

/-! ## Tables and databases that are in order -/

def Shaped (columns : List String) (row : List Cell) : Prop :=
  row.length = columns.length ∧ ∀ cell ∈ row, cell.check = .ok ()

structure Table.Sound (t : Table) : Prop where
  columns : (t.columns.map Database.foldName).Nodup
  rows : ∀ row ∈ t.rows, Shaped t.columns row

namespace Database

def names (db : Database) : List String := db.tables.map Table.name ++ db.views.map View.name

structure Sound (db : Database) : Prop where
  names : (db.names.map foldName).Nodup
  free : ∀ name ∈ db.names, isReserved name = false
  tables : ∀ t ∈ db.tables, t.Sound

theorem emptySound : empty.Sound := ⟨List.nodup_nil, nofun, nofun⟩

theorem sameFold {a b : String} : sameName a b = true ↔ foldName a = foldName b := beq_iff_eq

section
variable {db : Database} (sound : db.Sound)
include sound

theorem tableFolds : (db.tables.map fun t => foldName t.name).Nodup := by
  have all := sound.names
  rw [names, List.map_append, List.map_map] at all
  exact (List.nodup_append.mp all).1

theorem tableNamed {t u : Table} (first : t ∈ db.tables) (second : u ∈ db.tables) (same : t.name = u.name) : t = u :=
  List.inj_on_of_nodup_map (tableFolds sound) first second (congrArg foldName same)

theorem viewApart {t : Table} {v : View} (table : t ∈ db.tables) (view : v ∈ db.views) : t.name ≠ v.name := by
  have all := sound.names
  rw [names, List.map_append] at all
  intro same
  exact (List.nodup_append.mp all).2.2 _ (List.mem_map_of_mem (List.mem_map_of_mem table)) _
    (List.mem_map_of_mem (List.mem_map_of_mem view)) (congrArg foldName same)

end

end Database

/-! ## Growth -/

structure Table.Grown (t u : Table) : Prop where
  name : u.name = t.name
  columns : u.columns = t.columns
  rows : t.rows <+: u.rows

theorem Table.grownSelf (t : Table) : t.Grown t := ⟨rfl, rfl, List.prefix_rfl⟩

theorem Table.Grown.trans {t u v : Table} (first : t.Grown u) (second : u.Grown v) : t.Grown v :=
  ⟨second.name.trans first.name, second.columns.trans first.columns, first.rows.trans second.rows⟩

inductive Grow : List Table → List Table → Prop where
  | new (ts : List Table) : Grow [] ts
  | old {t u : Table} {ts us : List Table} (head : t.Grown u) (tail : Grow ts us) : Grow (t :: ts) (u :: us)

namespace Grow

theorem behind (ts us : List Table) : Grow ts (ts ++ us) := by
  induction ts with
  | nil => exact .new us
  | cons t ts ih => exact .old t.grownSelf ih

theorem mapped {f : Table → Table} {ts : List Table} (each : ∀ t ∈ ts, t.Grown (f t)) : Grow ts (ts.map f) := by
  induction ts with
  | nil => exact .new []
  | cons t ts ih =>
    exact .old (each t List.mem_cons_self) (ih fun u member => each u (List.mem_cons_of_mem t member))

theorem trans {ts us vs : List Table} (first : Grow ts us) (second : Grow us vs) : Grow ts vs := by
  induction first generalizing vs with
  | new us => exact .new vs
  | old head tail ih =>
    cases second with
    | old next rest => exact .old (head.trans next) (ih rest)

theorem found {ts us : List Table} (grow : Grow ts us) {p : String → Bool} {t : Table}
    (here : ts.find? (p ·.name) = some t) : ∃ u, us.find? (p ·.name) = some u ∧ t.Grown u := by
  induction grow with
  | new us => cases here
  | @old x y ts us head tail ih =>
    cases named : p x.name with
    | true =>
      simp only [List.find?_cons, named] at here
      cases here
      exact ⟨y, by simp only [List.find?_cons, head.name, named], head⟩
    | false =>
      simp only [List.find?_cons, named] at here
      obtain ⟨u, there, grown⟩ := ih here
      exact ⟨u, by simp only [List.find?_cons, head.name, named, there], grown⟩

end Grow

namespace Database

structure Extends (before after : Database) : Prop where
  tables : Grow before.tables after.tables
  views : before.views <+: after.views

def Keeps (before after : Database) : Prop := before.Sound → after.Sound ∧ before.Extends after

theorem keepsSelf (db : Database) : db.Keeps db := by
  have tables := Grow.behind db.tables []
  rw [List.append_nil] at tables
  exact fun sound => ⟨sound, tables, List.prefix_rfl⟩

theorem Keeps.trans {a b c : Database} (first : a.Keeps b) (second : b.Keeps c) : a.Keeps c := by
  intro sound
  obtain ⟨middle, grown⟩ := first sound
  obtain ⟨last, more⟩ := second middle
  exact ⟨last, grown.tables.trans more.tables, grown.views.trans more.views⟩

section
variable {db after : Database} {name : String} {columns : List String}

theorem checkNewOk (fresh : db.checkNew name = .ok ()) :
    isReserved name = false ∧ foldName name ∉ db.names.map foldName := by
  rw [checkNew, unlessOk, Bool.not_eq_true] at fresh
  obtain ⟨free, unused⟩ := fresh
  refine ⟨free, ?_⟩
  cases used : db.kind? name with
  | some kind =>
    rw [used] at unused
    cases unused
  | none =>
    rw [kind?] at used
    split at used
    · cases used
    · split at used
      · cases used
      · rename_i table view
        simp only [List.any_eq_true, sameFold, not_exists, not_and] at table view
        simp only [names, List.map_append, List.map_map, List.mem_append, List.mem_map, Function.comp_apply, not_or,
          not_exists, not_and]
        exact ⟨fun t member same => table t member same.symm, fun v member same => view v member same.symm⟩

theorem repeatedNone {before columns : List String} (none : repeated? before columns = none) :
    (columns.map foldName).Nodup ∧ ∀ c ∈ columns, foldName c ∉ before.map foldName := by
  induction columns generalizing before with
  | nil => exact ⟨List.nodup_nil, nofun⟩
  | cons c cs ih =>
    rw [repeated?] at none
    split at none
    · cases none
    · rename_i fresh
      obtain ⟨distinct, apart⟩ := ih none
      simp only [List.any_eq_true, sameFold, not_exists, not_and] at fresh
      simp only [List.map_cons, List.mem_cons, not_or] at apart
      refine ⟨List.nodup_cons.mpr ⟨?_, distinct⟩, ?_⟩
      · intro member
        obtain ⟨d, inside, same⟩ := List.mem_map.mp member
        exact (apart d inside).1 same
      · intro d member repeated
        rcases List.mem_cons.mp member with rfl | inside
        · obtain ⟨b, earlier, same⟩ := List.mem_map.mp repeated
          exact fresh b earlier same.symm
        · exact (apart d inside).2 repeated

theorem freshSound (sound : db.Sound) (fresh : db.checkNew name = .ok ()) {others : List String}
    (names : others.Perm (name :: db.names)) :
    (others.map foldName).Nodup ∧ ∀ n ∈ others, isReserved n = false := by
  obtain ⟨free, unused⟩ := checkNewOk fresh
  refine ⟨((names.map foldName).nodup_iff).mpr (List.nodup_cons.mpr ⟨unused, sound.names⟩), fun n member => ?_⟩
  rcases List.mem_cons.mp (names.mem_iff.mp member) with rfl | inside
  · exact free
  · exact sound.free n inside

theorem createKeeps (made : db.create name columns = .ok after) : db.Keeps after := by
  intro sound
  obtain ⟨_, fresh, made⟩ := bindOk.mp made
  cases distinct : repeated? [] columns with
  | some c =>
    rw [distinct] at made
    cases made
  | none =>
    rw [distinct] at made
    cases made
    have places : (Database.mk (db.tables ++ [⟨name, columns, []⟩]) db.views).names.Perm (name :: db.names) := by
      simp only [names, List.map_append, List.map_cons, List.map_nil, List.append_assoc]
      exact List.perm_middle
    obtain ⟨apart, free⟩ := freshSound sound fresh places
    refine ⟨⟨apart, free, fun t member => ?_⟩, Grow.behind _ _, List.prefix_rfl⟩
    rcases List.mem_append.mp member with old | new
    · exact sound.tables t old
    · cases List.mem_singleton.mp new
      exact ⟨(repeatedNone distinct).1, nofun⟩

theorem createViewKeeps {source : String} (made : db.createView name source columns = .ok after) : db.Keeps after := by
  intro sound
  obtain ⟨_, fresh, made⟩ := bindOk.mp made
  cases made
  have places : (Database.mk db.tables (db.views ++ [⟨name, columns, source⟩])).names.Perm (name :: db.names) := by
    simp only [names, List.map_append, List.map_cons, List.map_nil]
    rw [← List.append_assoc]
    exact List.perm_append_singleton _ _
  obtain ⟨apart, free⟩ := freshSound sound fresh places
  have tables := Grow.behind db.tables []
  rw [List.append_nil] at tables
  exact ⟨⟨apart, free, sound.tables⟩, tables, List.prefix_append _ _⟩

theorem checkedEach {row : List Cell} (checked : row.forM Cell.check = .ok ()) : ∀ cell ∈ row, cell.check = .ok () := by
  induction row with
  | nil => exact nofun
  | cons cell row ih =>
    obtain ⟨_, head, tail⟩ := bindOk.mp checked
    intro c member
    rcases List.mem_cons.mp member with rfl | inside
    · exact head
    · exact ih tail c inside

theorem insertedTable {t u : Table} {row : List Cell} (sound : t.Sound) (made : insertInto t row = .ok u) :
    u.Sound ∧ t.Grown u := by
  unfold insertInto at made
  split at made
  · cases made
  · rename_i count
    obtain ⟨_, checked, made⟩ := bindOk.mp made
    cases made
    refine ⟨⟨sound.columns, fun r member => ?_⟩, rfl, rfl, List.prefix_append _ _⟩
    rcases List.mem_append.mp member with old | new
    · exact sound.rows r old
    · cases List.mem_singleton.mp new
      exact ⟨by simpa using count, checkedEach checked⟩

theorem insertKeeps {row : List Cell} (made : db.insert name row = .ok after) : db.Keeps after := by
  intro sound
  rw [insert] at made
  split at made
  · cases made
  · rename_i t found
    obtain ⟨u, into, made⟩ := bindOk.mp made
    cases made
    have member := List.mem_of_find?_eq_some found
    obtain ⟨inOrder, grown⟩ := insertedTable (sound.tables t member) into
    have each : ∀ x ∈ db.tables, x.Grown (if x.name = t.name then u else x) := by
      intro x inside
      split
      · rename_i same
        rwa [tableNamed sound inside member same]
      · exact x.grownSelf
    have places : (db.tables.map fun x => if x.name = t.name then u else x).map Table.name =
        db.tables.map Table.name := by
      rw [List.map_map]
      exact List.map_congr_left fun x inside => (each x inside).name
    refine ⟨⟨?_, ?_, fun x inside => ?_⟩, Grow.mapped each, List.prefix_rfl⟩
    · rw [names, places]
      exact sound.names
    · rw [names, places]
      exact sound.free
    · obtain ⟨y, here, rfl⟩ := List.mem_map.mp inside
      split
      · exact inOrder
      · exact sound.tables y here

end

/-! ## What a search reads -/

section
variable {before after : Database} (grown : before.Extends after) (sound : after.Sound)
variable {name : String} {columns : List String}
include grown sound

theorem viewKept {v : View} (found : before.view? name = some v) :
    after.view? name = some v ∧ after.table? name = none := by
  have kept : after.view? name = some v := by
    obtain ⟨more, same⟩ := grown.views
    have here : before.views.find? (·.name == name) = some v := found
    rw [view?, ← same, List.find?_append, here]
    rfl
  refine ⟨kept, ?_⟩
  rw [table?, List.find?_eq_none]
  intro t member same
  have named : v.name = name := by simpa using List.find?_some kept
  exact viewApart sound member (List.mem_of_find?_eq_some kept) ((beq_iff_eq.mp same).trans named.symm)

theorem columnsKept (known : before.columns? name = some columns) : after.columns? name = some columns := by
  unfold columns? at known
  split at known
  · rename_i t found
    obtain ⟨u, there, more⟩ := grown.tables.found (p := (· == name)) found
    have here : after.table? name = some u := there
    rw [columns?, here, ← known]
    exact congrArg some more.columns
  · cases found : before.view? name with
    | none =>
      rw [found] at known
      cases known
    | some v =>
      obtain ⟨kept, none⟩ := viewKept grown sound found
      rw [columns?, none, kept, ← found]
      exact known

theorem rowsKept : (before.rows? name).getD [] <+: (after.rows? name).getD [] := by
  cases stored : before.table? name with
  | some t =>
    obtain ⟨u, there, more⟩ := grown.tables.found (p := (· == name)) stored
    have here : after.table? name = some u := there
    rw [rows?, rows?, stored, here]
    exact more.rows
  | none =>
    cases shown : before.view? name with
    | none =>
      rw [rows?, stored, shown]
      exact List.nil_prefix
    | some v =>
      obtain ⟨kept, none⟩ := viewKept grown sound shown
      rw [rows?, rows?, stored, none, shown, kept]
      cases read : before.tables.find? (sameName v.source ·.name) with
      | none =>
        simp [read]
      | some t =>
        obtain ⟨u, there, more⟩ := grown.tables.found (p := sameName v.source) read
        have rows := more.rows.map fun row => v.columns.map (cellAt t.columns row)
        simpa [read, there, project, more.columns] using rows

end

theorem cellAtFits {columns : List String} {row : List Cell} (shaped : Shaped columns row) (column : String) :
    (cellAt columns row column).check = .ok () := by
  unfold cellAt
  split
  · rename_i p found
    exact shaped.2 p.2 (List.of_mem_zip (List.mem_of_find?_eq_some found)).2
  · rfl

theorem projectShaped {t : Table} (sound : t.Sound) (columns : List String) :
    ∀ row ∈ project t columns, Shaped columns row := by
  intro row member
  obtain ⟨source, inside, rfl⟩ := List.mem_map.mp member
  refine ⟨List.length_map .., fun cell here => ?_⟩
  obtain ⟨column, _, rfl⟩ := List.mem_map.mp here
  exact cellAtFits (sound.rows source inside) column

theorem rowsShaped {db : Database} (sound : db.Sound) {name : String} {columns : List String}
    (known : db.columns? name = some columns) : ∀ row ∈ (db.rows? name).getD [], Shaped columns row := by
  intro row member
  unfold columns? at known
  unfold rows? at member
  cases stored : db.table? name with
  | some t =>
    rw [stored] at known member
    cases known
    exact (sound.tables t (List.mem_of_find?_eq_some stored)).rows row member
  | none =>
    rw [stored] at known member
    cases shown : db.view? name with
    | none =>
      rw [shown] at known
      cases known
    | some v =>
      rw [shown] at known member
      cases known
      cases read : db.tables.find? (sameName v.source ·.name) with
      | none =>
        simp [read] at member
      | some t =>
        have rows : row ∈ project t v.columns := by simpa [read] using member
        exact projectShaped (sound.tables t (List.mem_of_find?_eq_some read)) v.columns row rows

end Database

/-! ## Steps -/

namespace Change
open Database
variable {α β : Type}

theorem runBind (x : Change α) (next : α → Change β) (db : Database) :
    (x >>= next).run db = match x.run db with
      | (.ok a, after) => (next a).run after
      | (.error f, after) => (.error f, after) := by
  have steps : (x >>= next).run db =
      (fun r : Except Fault α × Database => ExceptT.bindCont next r.1 r.2 : _ → Except Fault β × Database)
        (x.run db) := rfl
  rw [steps]
  rcases x.run db with ⟨_ | a, after⟩ <;> rfl

theorem runChange (f : Database → Except Fault Database) (db : Database) :
    (change f).run db = match f db with
      | .ok after => (.ok (), after)
      | .error e => (.error e, db) := by
  have steps : (change f).run db =
      ((match f db with | .ok after => set after | .error e => throw e) : Change Unit).run db := rfl
  rw [steps]
  cases f db <;> rfl

def Keeping (x : Change α) : Prop := ∀ db : Database, db.Keeps (x.run db).2

theorem keepingPure (a : α) : Keeping (pure a) := keepsSelf

theorem keepingBind {x : Change α} {next : α → Change β} (first : Keeping x) (second : ∀ a, Keeping (next a)) :
    Keeping (x >>= next) := by
  intro db
  have kept := first db
  rw [runBind]
  generalize x.run db = r at kept ⊢
  obtain ⟨_ | a, after⟩ := r
  · exact kept
  · exact kept.trans (second a after)

theorem keepingChange {f : Database → Except Fault Database}
    (made : ∀ db after, f db = .ok after → db.Keeps after) : Keeping (change f) := by
  intro db
  rw [runChange]
  cases result : f db with
  | error e => exact keepsSelf db
  | ok after => exact made db after result

theorem keepingEach {xs : List α} {f : α → Change Unit} (each : ∀ x, Keeping (f x)) : Keeping (xs.forM f) := by
  induction xs with
  | nil => exact keepingPure ()
  | cons x xs ih => exact keepingBind (each x) fun _ => ih

theorem keepingSeed (seed : Seed) : Keeping seed.apply := by
  have rows : Keeping (seed.rows.forM fun row => change (·.insert seed.table row)) :=
    keepingEach fun _ => keepingChange fun _ _ => insertKeeps
  unfold Seed.apply
  split
  · exact keepingChange fun _ _ => createViewKeeps
  · split
    · exact keepingBind (keepingChange fun _ _ => createKeeps) fun _ => rows
    · exact rows

end Change

/-! ## Rows in reports -/

section
variable {α : Type} {p : Key → Prop} {q : α → Prop}

theorem putEach {es : Entries α} (held : ∀ e ∈ es, p e.1 ∧ q e.2) {k : Key} {v : α} (key : p k) (value : q v) :
    ∀ e ∈ es.put k v, p e.1 ∧ q e.2 := by
  induction es with
  | nil => simpa [Entries.put] using ⟨key, value⟩
  | cons e es ih =>
    simp only [List.forall_mem_cons] at held
    unfold Entries.put
    split
    · exact List.forall_mem_cons.mpr ⟨⟨held.1.1, value⟩, held.2⟩
    · exact List.forall_mem_cons.mpr ⟨held.1, ih held.2⟩

theorem pairsEach {ps : List (Key × α)} (each : ∀ e ∈ ps, p e.1 ∧ q e.2) :
    ∀ e ∈ Entries.ofPairs ps, p e.1 ∧ q e.2 := by
  induction ps using List.reverseRecOn with
  | nil => exact nofun
  | append_singleton ps e ih =>
    rw [List.forall_mem_append] at each
    rw [Entries.ofPairs, List.foldl_append]
    exact putEach (ih each.1) (each.2 e List.mem_cons_self).1 (each.2 e List.mem_cons_self).2

end

theorem entriesWritable {es : Entries Value} (each : ∀ e ∈ es, e.1.isWritable = true ∧ e.2.isWritable = true) :
    (Value.dict es).isWritable = true := by
  rw [Value.isWritable]
  induction es with
  | nil => rfl
  | cons e es ih =>
    simp only [List.forall_mem_cons] at each
    rw [Value.haveWritable, each.1.1, each.1.2, ih each.2]
    rfl

theorem cellWritable {cell : Cell} (fits : cell.check = .ok ()) : cell.value.isWritable = true := by
  cases cell with
  | int i =>
    have wide : integerLimit < (Nat.pow 10 Number.mostDigits : Nat) := by decide +kernel
    rw [Cell.check] at fits
    split at fits
    · rename_i within
      rw [fitsInteger, Bool.and_eq_true, decide_eq_true_eq, decide_eq_true_eq] at within
      rw [Cell.value, Value.isWritable, Number.isWritable, decide_eq_true_eq]
      generalize Nat.pow 10 Number.mostDigits = most at wide ⊢
      omega
    · cases fits
  | _ => rfl

theorem rowWritable {known : List String} {row : List Cell} (shaped : Shaped known row) :
    (Value.dict (reportRow known row)).isWritable = true := by
  refine entriesWritable
    (pairsEach (p := fun k => k.isWritable = true) (q := fun v : Value => v.isWritable = true) fun e member => ?_)
  obtain ⟨⟨c, cell⟩, inside, rfl⟩ := List.mem_map.mp member
  exact ⟨rfl, cellWritable (shaped.2 cell (List.of_mem_zip inside).2)⟩

theorem rowWhole {known : List String} {row : List Cell} (distinct : known.Nodup) (shaped : Shaped known row) :
    reportRow known row = (known.zip row).map fun p => (Key.text p.1, p.2.value) := by
  have keys : Entries.keys ((known.zip row).map fun p => (Key.text p.1, p.2.value)) = known.map Key.text := by
    rw [Entries.keys, List.map_map]
    nth_rewrite 2 [← List.map_fst_zip (Nat.le_of_eq shaped.1.symm)]
    rw [List.map_map]
    rfl
  exact Entries.ofDistinct (by rw [keys]; exact Key.distinctTexts distinct)

namespace Session
open Database

inductive Step : Session → Session → Prop where
  | seeded (s : Session) (seed : Seed) : Step s (s.apply seed).2
  | closed (s : Session) : Step s s.close

structure Later (before after : Session) : Prop where
  functionName : after.functionName = before.functionName
  scorer : after.scorer = before.scorer
  numeral : after.numeral = before.numeral
  opened : after.isOpen = true → before.isOpen = true
  closed : before.isOpen = false → after = before
  database : before.database.Keeps after.database

theorem laterSelf (s : Session) : Later s s := ⟨rfl, rfl, rfl, id, fun _ => rfl, keepsSelf _⟩

theorem Later.trans {a b c : Session} (first : Later a b) (second : Later b c) : Later a c where
  functionName := second.functionName.trans first.functionName
  scorer := second.scorer.trans first.scorer
  numeral := second.numeral.trans first.numeral
  opened last := first.opened (second.opened last)
  closed already := by
    have same := first.closed already
    rw [second.closed (by rwa [same]), same]
  database := first.database.trans second.database

theorem stepLater {s after : Session} (step : Step s after) : Later s after := by
  cases step with
  | seeded seed =>
    cases isOpen : s.isOpen with
    | true =>
      have applied : (s.apply seed).2 = { s with database := (seed.apply.run s.database).2 } := by
        rw [apply, if_pos isOpen]
      rw [applied]
      have stays (already : s.isOpen = false) : { s with database := (seed.apply.run s.database).2 } = s := by
        rw [isOpen] at already
        cases already
      exact ⟨rfl, rfl, rfl, id, stays, Change.keepingSeed seed s.database⟩
    | false =>
      have ignored : (s.apply seed).2 = s := by rw [apply, if_neg (by simp [isOpen])]
      rw [ignored]
      exact laterSelf s
  | closed =>
    refine ⟨rfl, rfl, rfl, nofun, fun already => ?_, keepsSelf _⟩
    rw [close, ← already]

theorem reachedLater {s after : Session} (reached : Relation.ReflTransGen Step s after) : Later s after := by
  induction reached with
  | refl => exact laterSelf s
  | tail _ step ih => exact ih.trans (stepLater step)

theorem reachedSound {s after : Session} (opened : s.database = .empty)
    (reached : Relation.ReflTransGen Step s after) : after.database.Sound := by
  refine ((reachedLater reached).database ?_).1
  rw [opened]
  exact emptySound

/-! ## Searches from step to step -/

theorem knownNamed {db : Database} {given : Value} {name : String} {columns : List String}
    (known : db.knownColumns given = .ok (name, columns)) :
    given = .text name ∧ db.columns? name = some columns := by
  unfold knownColumns at known
  split at known
  · split at known
    · rename_i found
      cases known
      exact ⟨rfl, found⟩
    · exact absurd known (Fault.raiseNotOk _ _)
  · exact absurd known (Fault.raiseNotOk _ _)

theorem preparedAlike {before : Database} (after : Database) {r : Request} {t : Statement}
    (prepared : before.prepare r = .ok t) :
    before.columns? t.table = some t.known ∧ (after.columns? t.table = some t.known → after.prepare r = .ok t) := by
  obtain ⟨⟨table, columns⟩, found, rest⟩ := bindOk.mp prepared
  have same : t.table = table ∧ t.known = columns := by
    obtain ⟨_, _, rest⟩ := bindOk.mp rest
    obtain ⟨_, _, rest⟩ := bindOk.mp rest
    obtain ⟨_, _, rest⟩ := bindOk.mp rest
    obtain ⟨_, _, last⟩ := bindOk.mp rest
    cases pureOk.mp last
    exact ⟨rfl, rfl⟩
  obtain ⟨named, known⟩ := knownNamed found
  rw [same.1, same.2]
  refine ⟨known, fun kept => bindOk.mpr ⟨(table, columns), ?_, rest⟩⟩
  unfold knownColumns
  simp only [named, kept]

theorem limitedPrefix {α : Type} (limit : Option Nat) {xs ys : List α} (grown : xs <+: ys) :
    limited limit xs <+: limited limit ys := by
  cases limit with
  | none => exact grown
  | some n =>
    obtain ⟨more, rfl⟩ := grown
    rw [limited, limited, List.take_append]
    exact List.prefix_append _ _

section
variable {s after : Session} (sound : s.database.Sound) {r : Request} {t : Statement} {rows : List (List Cell)}
include sound

/-- A search that was answered is answered again as long as the session is open. The rows it found are found again,
in front of those that were added. -/
theorem searchGrows (reached : Relation.ReflTransGen Step s after) (isOpen : after.isOpen = true)
    (prepared : s.prepare r = .ok t) (ran : s.run t = .ok rows) :
    after.prepare r = .ok t ∧ ∃ found, after.run t = .ok found ∧ rows <+: found := by
  have later := reachedLater reached
  obtain ⟨inOrder, grown⟩ := later.database sound
  rw [prepareOpen (later.opened isOpen)] at prepared
  obtain ⟨known, again⟩ := preparedAlike after.database prepared
  have kept := columnsKept grown inOrder known
  have accepted : after.accepts t = s.accepts t := by rw [accepts, accepts, later.functionName]
  have binding : after.binding t.known = s.binding t.known := by
    funext row
    rw [Session.binding, Session.binding, later.numeral]
  obtain ⟨_, taken, last⟩ := bindOk.mp ran
  cases pureOk.mp last
  refine ⟨by rw [prepareOpen isOpen, again kept], after.select t, runAccepted (accepted.trans taken), ?_⟩
  rw [select, select, binding, later.scorer]
  exact limitedPrefix _ ((rowsKept grown inOrder).filter _)

theorem searchShaped (prepared : s.prepare r = .ok t) (ran : s.run t = .ok rows) :
    ∀ row ∈ rows, Shaped t.known row := by
  obtain ⟨_, _, prepared⟩ := bindOk.mp prepared
  obtain ⟨_, _, last⟩ := bindOk.mp ran
  cases pureOk.mp last
  have known := (preparedAlike s.database prepared).1
  intro row member
  refine rowsShaped sound known row ?_
  rw [select] at member
  unfold limited at member
  split at member
  · exact (List.mem_filter.mp (List.mem_of_mem_take member)).1
  · exact (List.mem_filter.mp member).1

theorem searchWhole (prepared : s.prepare r = .ok t) (ran : s.run t = .ok rows)
    (stored : s.database.table? t.table ≠ none) :
    ∀ row ∈ rows, reportRow t.known row = (t.known.zip row).map fun p => (Key.text p.1, p.2.value) := by
  have shaped := searchShaped sound prepared ran
  obtain ⟨_, _, prepared⟩ := bindOk.mp prepared
  have known := (preparedAlike s.database prepared).1
  obtain ⟨u, found⟩ := Option.ne_none_iff_exists'.mp stored
  have columns : u.columns = t.known := by
    rw [columns?, found] at known
    exact Option.some.inj known
  have distinct := (sound.tables u (List.mem_of_find?_eq_some found)).columns.of_map
  rw [columns] at distinct
  exact fun row member => rowWhole distinct (shaped row member)

theorem searchReported (prepared : s.prepare r = .ok t) (ran : s.run t = .ok rows) (format : Format) (query : String) :
    Report.rendered format (some (.text query)) (rows.map (reportRow t.known)) =
      .ok (Report.render format (some (.text query)) (rows.map (reportRow t.known))) := by
  have written : ∀ v ∈ (rows.map (reportRow t.known)).map Value.dict, v.isWritable = true := by
    intro v member
    obtain ⟨_, inside, rfl⟩ := List.mem_map.mp member
    obtain ⟨row, found, rfl⟩ := List.mem_map.mp inside
    exact rowWritable (searchShaped sound prepared ran row found)
  have all : Report.isWritable format (some (.text query)) (rows.map (reportRow t.known)) = true := by
    rw [Report.isWritable, List.all_eq_true]
    cases format with
    | text => exact written
    | json => exact List.forall_mem_cons.mpr ⟨rfl, written⟩
  rw [Report.rendered, if_pos all]

end
end Session
end TypoSearch.Store
