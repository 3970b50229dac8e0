import TypoSearch.Config.Field
import TypoSearch.Proofs.Plan.Arguments

/-! What a reader of settings sees. A reader looks up its section and the fields in it by name, so it cannot
tell two mappings apart that hold the same under those names. -/
namespace TypoSearch.Config

section
variable {s : Section} {group name : String}

theorem sectionHeld {es : Section} (held : s.get? (.text name) = some (.dict es)) {required : Bool} :
    sectionOf s name required = .ok es := by
  rw [sectionOf, held]

theorem fieldHeld {v : Value} (held : s.get? (.text name) = some v) (setting : String) :
    field s name setting = .ok v := by
  rw [field, held]

theorem textHeld {t : String} (held : s.get? (.text name) = some (.text t)) :
    textField s group name = .ok t := by
  rw [textField, fieldHeld held]
  rfl

theorem boolHeld {b : Bool} (held : s.get? (.text name) = some (.bool b)) :
    boolField s group name = .ok b := by
  rw [boolField, fieldHeld held]
  rfl

theorem intHeld {i : Int} (held : s.get? (.text name) = some (.int i)) : intField s group name = .ok i := by
  rw [intField, fieldHeld held]
  rfl

theorem logicHeld {l : Logic} (held : s.get? (.text name) = some (.text l.word)) :
    logicField s group name = .ok l := by
  have spelled : Text.upper (trimmed l.word) = l.word := by cases l <;> decide +kernel
  rw [logicField, textHeld held, Outcome.okBind, spelled]
  exact Logic.ofValueOk.mpr rfl

end

def SameFields (names : List String) : Option Value → Option Value → Prop
  | some (.dict es), some (.dict fs) =>
    ∀ name ∈ names, Entries.get? es (.text name) = Entries.get? fs (.text name)
  | a, b => a = b

theorem sameRefl (names : List String) (a : Option Value) : SameFields names a a := by
  unfold SameFields
  split
  · intro name member
    rfl
  · rfl

theorem sectionSame {names : List String} {root other : Section} {name : String}
    (same : SameFields names (root.get? (.text name)) (other.get? (.text name))) {α : Type}
    {reader : Section → Except Fault α}
    (fields : ∀ es fs : Section, (∀ n ∈ names, es.get? (.text n) = fs.get? (.text n)) → reader es = reader fs) :
    (sectionOf root name true >>= reader) = (sectionOf other name true >>= reader) := by
  unfold sectionOf
  generalize root.get? (.text name) = a at same ⊢
  generalize other.get? (.text name) = b at same ⊢
  unfold SameFields at same
  split at same
  · rename_i es fs
    exact fields es fs same
  · rw [same]

end TypoSearch.Config
