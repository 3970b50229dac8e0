import TypoSearch.Config.Merge
import TypoSearch.Proofs.Value

/-! What two layers of settings come to. The merged layer is known path by path: the later layer has the
word wherever it says something that is no mapping, and elsewhere the earlier one keeps what it has. -/
namespace TypoSearch

namespace Value

def isMapping : Value → Bool
  | dict _ => true
  | _ => false

def at? : Value → List Key → Option Value
  | v, [] => some v
  | dict es, k :: path => match Entries.get? es k with
    | some v => v.at? path
    | none => none
  | _, _ :: _ => none

def Clear (v : Value) (path : List Key) : Prop :=
  ∀ front, front ≠ [] → front <+: path → ∀ w, v.at? front = some w → w.isMapping = true

inductive Keyed : Value → Prop
  | plain {v} (plain : v.isMapping = false) : Keyed v
  | dict {es} (distinct : Key.Distinct (Entries.keys es)) (values : ∀ e ∈ es, Keyed e.2) : Keyed (.dict es)

theorem mappingIff {v : Value} : v.isMapping = true ↔ ∃ es, v = dict es := by
  cases v <;> simp [isMapping]

theorem keyedDict {es : Entries Value} :
    Keyed (.dict es) ↔ Key.Distinct (Entries.keys es) ∧ ∀ e ∈ es, Keyed e.2 := by
  constructor
  · intro keyed
    cases keyed with
    | plain plain => simp [isMapping] at plain
    | dict distinct values => exact ⟨distinct, values⟩
  · rintro ⟨distinct, values⟩
    exact .dict distinct values

theorem Keyed.distinct {es : Entries Value} (keyed : Keyed (.dict es)) : Key.Distinct (Entries.keys es) :=
  (keyedDict.mp keyed).1

theorem Keyed.found {es : Entries Value} {k : Key} {v : Value} (keyed : Keyed (.dict es))
    (found : Entries.get? es k = some v) : Keyed v := by
  obtain ⟨e, member, rfl⟩ := Entries.getMember found
  exact (keyedDict.mp keyed).2 e member

theorem atPlain {v : Value} (plain : v.isMapping = false) (k : Key) (path : List Key) :
    v.at? (k :: path) = none := by
  cases v <;> first | rfl | simp [isMapping] at plain

theorem atDict (es : Entries Value) (k : Key) (path : List Key) :
    (dict es).at? (k :: path) = (Entries.get? es k).bind (·.at? path) := by
  rw [at?]
  cases Entries.get? es k <;> rfl

theorem clearCons {es : Entries Value} {k : Key} {path : List Key} :
    (dict es).Clear (k :: path) ↔ ∀ v, Entries.get? es k = some v → v.isMapping = true ∧ v.Clear path := by
  constructor
  · intro clear v found
    refine ⟨clear [k] (by simp) (by simp) v (by simp [found, at?]), fun front given leads w ends => ?_⟩
    exact clear (k :: front) (by simp) (by simpa using leads) w (by simpa [atDict, found] using ends)
  · intro each front given leads w ends
    cases front with
    | nil => exact absurd rfl given
    | cons l front =>
      obtain ⟨rfl, further⟩ := List.cons_prefix_cons.mp leads
      rw [atDict, Option.bind_eq_some_iff] at ends
      obtain ⟨v, found, rest⟩ := ends
      obtain ⟨mapping, clear⟩ := each v found
      cases front with
      | nil => exact Option.some.inj rest ▸ mapping
      | cons m front => exact clear (m :: front) (by simp) further w rest

theorem Keyed.ends {v w : Value} {path : List Key} (keyed : Keyed v) (ends : v.at? path = some w) : Keyed w := by
  induction path generalizing v with
  | nil => exact Option.some.inj ends ▸ keyed
  | cons k path ih =>
    cases mapping : v.isMapping with
    | false => simp [atPlain mapping] at ends
    | true =>
      obtain ⟨es, rfl⟩ := mappingIff.mp mapping
      rw [atDict, Option.bind_eq_some_iff] at ends
      obtain ⟨x, found, rest⟩ := ends
      exact ih (keyed.found found) rest

end Value

namespace Config
open Entries (keys getNil getCons getKey getMember getOwn getSame getTail putGet putKeys putDistinct sameEntries)
open Value (Keyed at? isMapping mappingIff keyedDict atPlain atDict clearCons)

/-! ## One level -/

def standing : Option Value → Entries Value
  | some (.dict bs) => bs
  | _ => []

theorem mergePlain {v : Value} (old : Option Value) (plain : v.isMapping = false) : mergeValue old v = v := by
  cases v <;> first | rfl | simp [isMapping] at plain

theorem mergeNone (v : Value) : mergeValue none v = v := by
  cases v <;> rfl

theorem mergeApart {old : Option Value} {v : Value}
    (apart : v.isMapping = false ∨ ∀ bs, old ≠ some (.dict bs)) : mergeValue old v = v := by
  rcases apart with plain | other
  · exact mergePlain old plain
  · cases v with
    | dict es =>
      cases old with
      | none => rfl
      | some w =>
        cases w with
        | dict bs => exact absurd rfl (other bs)
        | _ => rfl
    | _ => rfl

section
variable {base override : Entries Value} {k : Key}

theorem mergeGet (lower : Key.Distinct (keys base)) (upper : Key.Distinct (keys override)) (inRange : k.InRange) :
    (mergeEntries base override).get? k = match override.get? k with
      | some v => some (mergeValue (base.get? k) v)
      | none => base.get? k := by
  -- The loop works on what it has put together so far, so the induction is for every base.
  induction override generalizing base with
  | nil => simp [mergeEntries]
  | cons e rest ih =>
    obtain ⟨l, v⟩ := e
    have head : l.InRange := upper.inRange l (.head _)
    rw [mergeEntries, ih (putDistinct lower head) upper.tail, putGet lower.inRange head inRange, getCons]
    cases here : l.same k with
    | false => rfl
    | true =>
      have absent : Entries.get? rest k = none := getTail upper inRange here
      have place : base.get? l = base.get? k := getSame lower.inRange head inRange here
      simp [absent, place]

theorem mergeKeys (lower : Key.Distinct (keys base)) (upper : Key.Distinct (keys override)) :
    keys (mergeEntries base override) = keys base ++ (keys override).filter fun k => (base.get? k).isNone := by
  induction override generalizing base with
  | nil => simp [mergeEntries, keys]
  | cons e rest ih =>
    obtain ⟨l, v⟩ := e
    have head : l.InRange := upper.inRange l (.head _)
    have later : (keys rest).filter (fun k => ((base.put l (mergeValue (base.get? l) v)).get? k).isNone) =
        (keys rest).filter fun k => (base.get? k).isNone := by
      refine List.filter_congr fun m member => ?_
      have other : l.same m = false := (List.pairwise_cons.mp upper.apart).1 m member
      rw [putGet lower.inRange head (upper.tail.inRange m member), other]
      rfl
    rw [mergeEntries, ih (putDistinct lower head) upper.tail, later, putKeys]
    cases present : base.get? l <;> simp [keys, present]

theorem mergeDistinct (lower : Key.Distinct (keys base)) (upper : Key.Distinct (keys override)) :
    Key.Distinct (keys (mergeEntries base override)) := by
  induction override generalizing base with
  | nil => exact lower
  | cons e rest ih => exact ih (putDistinct lower (upper.inRange e.1 (.head _))) upper.tail

theorem mergeFresh (upper : Key.Distinct (keys override)) : mergeEntries [] override = override := by
  have none : Key.Distinct (keys ([] : Entries Value)) := ⟨by simp [keys], .nil⟩
  refine (sameEntries upper ?_ fun k member => ?_).symm
  · rw [mergeKeys none upper]
    exact (List.filter_eq_self.mpr fun _ _ => rfl).symm
  · rw [mergeGet none upper (upper.inRange k member)]
    cases override.get? k <;> simp [mergeNone]

theorem mergeMapping (old : Option Value) (upper : Key.Distinct (keys override)) :
    mergeValue old (.dict override) = .dict (mergeEntries (standing old) override) := by
  cases old with
  | none => exact congrArg Value.dict (mergeFresh upper).symm
  | some v =>
    cases v with
    | dict bs => rfl
    | _ => exact congrArg Value.dict (mergeFresh upper).symm

end

/-! ## Laws of the whole merge -/

theorem standingKeyed {old : Option Value} (lower : ∀ v ∈ old, Keyed v) : Keyed (.dict (standing old)) := by
  unfold standing
  split
  · exact lower _ rfl
  · exact .dict ⟨by simp [keys], .nil⟩ (by simp)

theorem standingHeld {old : Option Value} (lower : ∀ v ∈ old, Keyed v) (k : Key) :
    ∀ v ∈ (standing old).get? k, Keyed v :=
  fun _ there => (standingKeyed lower).found there

theorem atStanding (old : Option Value) (k : Key) (path : List Key) :
    old.bind (·.at? (k :: path)) = ((standing old).get? k).bind (·.at? path) := by
  cases old with
  | none => rfl
  | some v =>
    cases v with
    | dict es => exact atDict es k path
    | _ => rfl

theorem mergeAgain {v : Value} (upper : Keyed v) : ∀ old : Option Value, (∀ w ∈ old, Keyed w) →
    mergeValue (some (mergeValue old v)) v = mergeValue old v := by
  induction upper with
  | plain plain =>
    intro old _
    rw [mergePlain _ plain, mergePlain _ plain]
  | @dict es distinct values ih =>
    intro old lower
    have held := standingKeyed lower
    have merged := mergeDistinct held.distinct distinct
    -- Every key of the later layer is there after the first merge, so the second one adds none.
    have present : (keys es).filter (fun k => ((mergeEntries (standing old) es).get? k).isNone) = [] := by
      refine List.filter_eq_nil_iff.mpr fun k member => ?_
      have inRange := distinct.inRange k member
      obtain ⟨v, found⟩ := getKey inRange member
      simp [mergeGet held.distinct distinct inRange, found]
    rw [mergeMapping old distinct, mergeMapping _ distinct, standing]
    congr 1
    refine (sameEntries merged ?_ fun k member => ?_).symm
    · rw [mergeKeys merged distinct, present, List.append_nil]
    · have inRange := merged.inRange k member
      rw [mergeGet merged distinct inRange, mergeGet held.distinct distinct inRange]
      cases found : Entries.get? es k with
      | none => rfl
      | some v =>
        obtain ⟨e, member, rfl⟩ := getMember found
        have again := ih e member _ (standingHeld lower k)
        simp only [again]

theorem mergeKeyed {v : Value} (upper : Keyed v) :
    ∀ old : Option Value, (∀ w ∈ old, Keyed w) → Keyed (mergeValue old v) := by
  induction upper with
  | plain plain =>
    intro old _
    rw [mergePlain _ plain]
    exact .plain plain
  | @dict es distinct values ih =>
    intro old lower
    have held := standingKeyed lower
    have merged := mergeDistinct held.distinct distinct
    rw [mergeMapping old distinct]
    refine .dict merged fun e member => ?_
    have own := getOwn merged member
    rw [mergeGet held.distinct distinct (merged.inRange e.1 (List.mem_map_of_mem member))] at own
    split at own
    · rename_i v found
      obtain ⟨f, place, rfl⟩ := getMember found
      exact Option.some.inj own ▸ ih f place _ (standingHeld lower e.1)
    · exact held.found own

/-! ## Paths -/

section
variable {path : List Key}

theorem mergeStep {es : Entries Value} {old : Option Value} {k : Key} (upper : Keyed (.dict es))
    (lower : ∀ x ∈ old, Keyed x) (inRange : k.InRange) :
    (mergeValue old (.dict es)).at? (k :: path) = match es.get? k with
      | some v => (mergeValue ((standing old).get? k) v).at? path
      | none => old.bind (·.at? (k :: path)) := by
  rw [mergeMapping old upper.distinct, atDict, mergeGet (standingKeyed lower).distinct upper.distinct inRange]
  cases es.get? k with
  | some v => rfl
  | none => exact (atStanding old k path).symm

theorem mergeLater {v w : Value} {old : Option Value} (upper : Keyed v) (lower : ∀ x ∈ old, Keyed x)
    (inRange : ∀ k ∈ path, k.InRange) (ends : v.at? path = some w) (plain : w.isMapping = false) :
    (mergeValue old v).at? path = some w := by
  induction path generalizing v old with
  | nil =>
    obtain rfl : v = w := Option.some.inj ends
    rw [mergePlain old plain]
    rfl
  | cons k path ih =>
    obtain ⟨head, tail⟩ := List.forall_mem_cons.mp inRange
    cases mapping : v.isMapping with
    | false => simp [atPlain mapping] at ends
    | true =>
      obtain ⟨es, rfl⟩ := mappingIff.mp mapping
      rw [atDict, Option.bind_eq_some_iff] at ends
      obtain ⟨x, found, rest⟩ := ends
      rw [mergeStep upper lower head, found]
      exact ih (upper.found found) (standingHeld lower k) tail rest

theorem mergeEarlier {v w : Value} {old : Option Value} (upper : Keyed v) (lower : ∀ x ∈ old, Keyed x)
    (inRange : ∀ k ∈ path, k.InRange) (ends : old.bind (·.at? path) = some w) (mapping : v.isMapping = true)
    (clear : v.Clear path) (silent : v.at? path = none) : (mergeValue old v).at? path = some w := by
  induction path generalizing v old with
  | nil => simp [at?] at silent
  | cons k path ih =>
    obtain ⟨head, tail⟩ := List.forall_mem_cons.mp inRange
    obtain ⟨es, rfl⟩ := mappingIff.mp mapping
    rw [mergeStep upper lower head]
    cases found : Entries.get? es k with
    | none => exact ends
    | some x =>
      obtain ⟨inner, further⟩ := clearCons.mp clear x found
      rw [atStanding] at ends
      rw [atDict, found] at silent
      exact ih (upper.found found) (standingHeld lower k) tail ends inner further silent

theorem mergeOnly {v w : Value} {old : Option Value} (upper : Keyed v) (lower : ∀ x ∈ old, Keyed x)
    (inRange : ∀ k ∈ path, k.InRange) (ends : (mergeValue old v).at? path = some w)
    (plain : w.isMapping = false) :
    v.at? path = some w ∨ (old.bind (·.at? path) = some w ∧ v.Clear path ∧ v.at? path = none) := by
  induction path generalizing v old with
  | nil =>
    cases mapping : v.isMapping with
    | false => exact .inl (by rw [← mergePlain old mapping, ends])
    | true =>
      obtain ⟨es, rfl⟩ := mappingIff.mp mapping
      rw [mergeMapping old upper.distinct] at ends
      obtain rfl : Value.dict _ = w := Option.some.inj ends
      simp [isMapping] at plain
  | cons k path ih =>
    obtain ⟨head, tail⟩ := List.forall_mem_cons.mp inRange
    cases mapping : v.isMapping with
    | false => simp [mergePlain old mapping, atPlain mapping] at ends
    | true =>
      obtain ⟨es, rfl⟩ := mappingIff.mp mapping
      rw [mergeStep upper lower head] at ends
      rw [atDict]
      cases found : Entries.get? es k with
      | none =>
        rw [found] at ends
        exact .inr ⟨ends, clearCons.mpr (fun x other => nomatch found.symm.trans other), rfl⟩
      | some x =>
        rw [found] at ends
        rcases ih (upper.found found) (standingHeld lower k) tail ends with later | ⟨earlier, clear, silent⟩
        · exact .inl later
        -- The later layer is silent behind `x`, and a value that is no mapping would not have been.
        · have inner : x.isMapping = true := by
            cases other : x.isMapping with
            | true => rfl
            | false => simp [mergePlain _ other, silent] at ends
          refine .inr ⟨(atStanding old k path).trans earlier, clearCons.mpr fun y same => ?_, silent⟩
          obtain rfl : x = y := Option.some.inj (found.symm.trans same)
          exact ⟨inner, clear⟩

theorem mergeBoth {v : Value} {old : Option Value} {bs os : Entries Value} (upper : Keyed v)
    (lower : ∀ x ∈ old, Keyed x) (inRange : ∀ k ∈ path, k.InRange)
    (first : old.bind (·.at? path) = some (.dict bs)) (second : v.at? path = some (.dict os)) :
    (mergeValue old v).at? path = some (.dict (mergeEntries bs os)) := by
  induction path generalizing v old with
  | nil =>
    obtain ⟨x, rfl, whole⟩ := Option.bind_eq_some_iff.mp first
    obtain rfl : x = .dict bs := Option.some.inj whole
    obtain rfl : v = .dict os := Option.some.inj second
    rfl
  | cons k path ih =>
    obtain ⟨head, tail⟩ := List.forall_mem_cons.mp inRange
    cases mapping : v.isMapping with
    | false => simp [atPlain mapping] at second
    | true =>
      obtain ⟨es, rfl⟩ := mappingIff.mp mapping
      rw [atStanding] at first
      rw [atDict, Option.bind_eq_some_iff] at second
      obtain ⟨x, found, rest⟩ := second
      rw [mergeStep upper lower head, found]
      exact ih (upper.found found) (standingHeld lower k) tail first rest

end

/-! ## The loop -/

/-- A call of the merge that ends, followed entry by entry: `merged` is what has been put together so far. -/
inductive Merges : Entries Value → Entries Value → Entries Value → Prop
  | done (merged) : Merges merged [] merged
  | nested {merged k bs os inner rest result} (standing : Entries.get? merged k = some (.dict bs))
      (call : Merges bs os inner) (next : Merges (Entries.put merged k (.dict inner)) rest result) :
      Merges merged ((k, .dict os) :: rest) result
  | replaced {merged k v rest result}
      (apart : v.isMapping = false ∨ ∀ bs, Entries.get? merged k ≠ some (.dict bs))
      (next : Merges (Entries.put merged k v) rest result) : Merges merged ((k, v) :: rest) result

theorem Merges.result {base override merged : Entries Value} (ends : Merges base override merged) :
    merged = mergeEntries base override := by
  induction ends with
  | done merged => rfl
  | nested standing call next inner outer => rw [mergeEntries, standing, mergeValue, ← inner, outer]
  | @replaced merged k v rest result apart next ih =>
    rw [mergeEntries, mergeApart apart, ih]

theorem merges (base override : Entries Value) : Merges base override (mergeEntries base override) := by
  refine mergeEntries.induct (fun base override => Merges base override (mergeEntries base override))
    (fun old v => ∀ bs es, old = some (.dict bs) → v = .dict es → Merges bs es (mergeEntries bs es))
    ?both ?alone ?_ ?_ ?_ ?_ ?_ ?_ ?_ ?done ?entry base override
  case both =>
    rintro es bs call _ _ ⟨⟩ ⟨⟩
    exact call
  case alone =>
    intro old es other bs _ met
    exact absurd met (other bs)
  case done => exact .done
  case entry =>
    intro base k v rest call next
    by_cases both : v.isMapping = true ∧ ∃ bs, base.get? k = some (.dict bs)
    · obtain ⟨mapping, bs, standing⟩ := both
      obtain ⟨es, rfl⟩ := mappingIff.mp mapping
      rw [standing, mergeValue] at next
      rw [mergeEntries, standing, mergeValue]
      exact .nested standing (call bs es standing rfl) next
    · have apart : v.isMapping = false ∨ ∀ bs, base.get? k ≠ some (.dict bs) := by
        rw [Classical.not_and_iff_not_or_not, Bool.not_eq_true, not_exists] at both
        exact both
      rw [mergeApart apart] at next
      rw [mergeEntries, mergeApart apart]
      exact .replaced apart next
  all_goals simp

theorem mergesIff {base override merged : Entries Value} :
    Merges base override merged ↔ merged = merge base override :=
  ⟨Merges.result, fun same => same ▸ merges base override⟩

/-! ## Two layers -/

structure Layered (base override merged : Value) : Prop where
  later : ∀ path w, (∀ k ∈ path, k.InRange) → override.at? path = some w → w.isMapping = false →
    merged.at? path = some w
  earlier : ∀ path w, (∀ k ∈ path, k.InRange) → base.at? path = some w → override.Clear path →
    override.at? path = none → merged.at? path = some w
  only : ∀ path w, (∀ k ∈ path, k.InRange) → merged.at? path = some w → w.isMapping = false →
    override.at? path = some w ∨ (base.at? path = some w ∧ override.Clear path ∧ override.at? path = none)
  order : ∀ path bs os, (∀ k ∈ path, k.InRange) → base.at? path = some (.dict bs) →
    override.at? path = some (.dict os) → ∃ ms, merged.at? path = some (.dict ms) ∧
      keys ms = keys bs ++ (keys os).filter fun k => (Entries.get? bs k).isNone

theorem mergeLayered {base override : Entries Value} (lower : Keyed (.dict base)) (upper : Keyed (.dict override)) :
    Layered (.dict base) (.dict override) (.dict (merge base override)) := by
  have held : ∀ x ∈ some (Value.dict base), Keyed x := by rintro _ ⟨⟩; exact lower
  constructor
  · exact fun path w inRange ends plain => mergeLater upper held inRange ends plain
  · exact fun path w inRange ends clear silent => mergeEarlier upper held inRange ends rfl clear silent
  · exact fun path w inRange ends plain => mergeOnly upper held inRange ends plain
  · intro path bs os inRange first second
    exact ⟨mergeEntries bs os, mergeBoth upper held inRange first second,
      mergeKeys (lower.ends first).distinct (upper.ends second).distinct⟩

theorem mergeLaws {base override : Entries Value} (lower : Keyed (.dict base)) (upper : Keyed (.dict override)) :
    Keyed (.dict (merge base override)) ∧
      Layered (.dict base) (.dict override) (.dict (merge base override)) ∧
      merge base [] = base ∧ merge [] override = override ∧ merge override override = override ∧
      merge (merge base override) override = merge base override ∧
      ∀ merged, Merges base override merged ↔ merged = merge base override := by
  have held : ∀ x ∈ some (Value.dict base), Keyed x := by rintro _ ⟨⟩; exact lower
  have self : mergeValue (some (.dict override)) (.dict override) = .dict override := by
    have again := mergeAgain upper none (by simp)
    rwa [mergeNone] at again
  exact ⟨mergeKeyed upper (some (.dict base)) held, mergeLayered lower upper, rfl, mergeFresh upper.distinct,
    Value.dict.inj self, Value.dict.inj (mergeAgain upper (some (.dict base)) held), fun _ => mergesIff⟩

def lowerLayer : Entries Value :=
  [(.text "log", .dict [(.text "level", .text "info"), (.text "dir", .null)]),
   (.text "output", .text "json"),
   (.int 1, .dict [(.text "rows", .int 3)])]

def upperLayer : Entries Value :=
  [(.bool true, .null),
   (.text "log", .dict [(.text "file", .dict []), (.text "dir", .text "out")]),
   (.text "output", .dict [(.text "rows", .int 5)])]

theorem mergeLawsNested : Keyed (.dict lowerLayer) ∧ Keyed (.dict upperLayer) ∧
    keys (merge lowerLayer upperLayer) = [.text "log", .text "output", .int 1] ∧
    (Value.dict (merge lowerLayer upperLayer)).at? [.text "log", .text "level"] = some (.text "info") ∧
    (Value.dict (merge lowerLayer upperLayer)).at? [.text "log", .text "dir"] = some (.text "out") ∧
    (Value.dict (merge lowerLayer upperLayer)).at? [.int 1] = some .null ∧
    merge (merge lowerLayer upperLayer) upperLayer = merge lowerLayer upperLayer := by
  have lower : Keyed (.dict lowerLayer) := by
    simp [lowerLayer, keyedDict, Key.distinctIff, keys, Key.InRange, Key.same, Key.number?]
    exact ⟨⟨.plain rfl, .plain rfl⟩, .plain rfl, .plain rfl⟩
  have upper : Keyed (.dict upperLayer) := by
    simp [upperLayer, keyedDict, Key.distinctIff, keys, Key.InRange, Key.same, Key.number?]
    exact ⟨.plain rfl, .plain rfl, .plain rfl⟩
  obtain ⟨_, layered, _, _, _, again, _⟩ := mergeLaws lower upper
  refine ⟨lower, upper, ?_, ?_, ?_, ?_, again⟩
  · obtain ⟨ms, whole, order⟩ := layered.order [] _ _ (by simp) rfl rfl
    obtain rfl : merge lowerLayer upperLayer = ms := Value.dict.inj (Option.some.inj whole)
    rw [order]
    simp [lowerLayer, upperLayer, keys, Key.same, Key.number?]
  · refine layered.earlier _ _ (by simp [Key.InRange]) ?_ ?_ ?_
    · simp [lowerLayer, at?, Key.same]
    · simp [upperLayer, clearCons, Key.same, Key.number?, isMapping]
    · simp [upperLayer, at?, Key.same, Key.number?]
  · exact layered.later _ _ (by simp [Key.InRange]) (by simp [upperLayer, at?, Key.same, Key.number?]) rfl
  · exact layered.later _ _ (by simp [Key.InRange]) (by simp [upperLayer, at?, Key.same, Key.number?]) rfl

end Config
end TypoSearch
