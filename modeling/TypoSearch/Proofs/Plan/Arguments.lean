import TypoSearch.Plan
import TypoSearch.Proofs.Outcome

/-! The arguments that a plan is made from. A logic is one of its two words and a budget is a natural
number; all others are refused, and the refusal blames the value. -/
namespace TypoSearch
open Outcome (bindOk bindError pureOk)

namespace Fault

def blamesValue : Fault → Bool
  | .tooLarge | .integerRange | .truthWord _ | .emptyNumber | .fileExists _ | .notDirectory _ => false
  | .codePoint code => Fault.isWordSized code
  | .entryKind _ | .noLength _ | .notIterable _ | .notText _ | .unhashable _ | .notNumber _ => false
  | .settingKind _ _ | .noMethod _ _ | .closed | .statementLength | .nullCharacter | .noFunction _ | .noTable _ => false
  | .nameTaken _ _ | .reservedName _ | .repeatedColumn _ | .cellCount _ _ _ | .tooDeep _ => false
  | .openFailed | .notDatabase | .settingsText => false
  | _ => true

theorem raisedSame {f : Fault} (written : f.isWritable = true) : f.raised = f := if_pos written

theorem raisedOther {f : Fault} (unwritten : f.isWritable = false) : f.raised = .unwritable := by
  rw [raised, unwritten, if_neg Bool.false_ne_true]

theorem raisedBlames {f : Fault} (blames : f.blamesValue = true) : f.raised.blamesValue = true := by
  cases written : f.isWritable with
  | true => rwa [raisedSame written]
  | false =>
    rw [raisedOther written]
    rfl

@[simp] theorem raiseNotOk {α : Type} (f : Fault) (a : α) : (f.raise : Except Fault α) ≠ .ok a := nofun

theorem raiseError {α : Type} {f g : Fault} : (f.raise : Except Fault α) = .error g ↔ g = f.raised := by
  rw [raise, Except.error.injEq, eq_comm]

end Fault

namespace Logic

theorem ofWordSome {s : String} {l : Logic} : ofWord? s = some l ↔ s = l.word := by
  constructor
  · intro read
    unfold ofWord? at read
    split at read
    · cases read
      assumption
    · split at read
      · cases read
        assumption
      · cases read
  · rintro rfl
    exact wordRead l

theorem ofValueOk {argument : String} {v : Value} {l : Logic} :
    ofValue argument v = .ok l ↔ v = .text l.word := by
  unfold ofValue
  cases v with
  | text s =>
    rw [Value.text.injEq, ← ofWordSome]
    dsimp only
    cases ofWord? s with
    | none => simp
    | some m => simp
  | _ => simp

theorem ofValueError {argument : String} {v : Value} {f : Fault} (refused : ofValue argument v = .error f) :
    f.blamesValue = true := by
  unfold ofValue at refused
  split at refused
  · split at refused
    · cases refused
    · cases refused
      exact Fault.raisedBlames rfl
  · cases refused
    exact Fault.raisedBlames rfl

end Logic

namespace Budget

theorem ofValueOk {v : Value} {typos : Nat} : ofValue v = .ok typos ↔ v = .int typos := by
  unfold ofValue
  split
  · rw [Except.ok.injEq, Value.int.injEq]
    exact Int.natCast_inj.symm
  · rename_i other
    constructor
    · intro refused
      cases refused
    · rintro rfl
      exact absurd rfl (other typos)

theorem ofValueError {v : Value} {f : Fault} (refused : ofValue v = .error f) : f.blamesValue = true := by
  unfold ofValue at refused
  split at refused
  · cases refused
  · cases refused
    exact Fault.raisedBlames rfl

end Budget

namespace Policy

theorem ofValuesOk {argument : String} {termLogic budget : Value} {policy : Policy} :
    ofValues argument termLogic budget = .ok policy ↔
      termLogic = .text policy.termLogic.word ∧ budget = .int policy.typos := by
  simp only [ofValues, bindOk, pureOk, Logic.ofValueOk, Budget.ofValueOk]
  constructor
  · rintro ⟨_, rfl, _, rfl, rfl⟩
    exact ⟨rfl, rfl⟩
  · rintro ⟨rfl, rfl⟩
    exact ⟨_, rfl, _, rfl, rfl⟩

end Policy

namespace ColumnPolicy

def Invalid (columnLogic termLogic budget : Value) : Prop :=
  (∀ l : Logic, columnLogic ≠ .text l.word) ∨ (∀ l : Logic, termLogic ≠ .text l.word) ∨
    ∀ typos : Nat, budget ≠ .int typos

section
variable {columnLogic termLogic budget : Value} {policy : ColumnPolicy}

theorem ofValuesOk : ofValues columnLogic termLogic budget = .ok policy ↔
    columnLogic = .text policy.columnLogic.word ∧ termLogic = .text policy.terms.termLogic.word ∧
      budget = .int policy.terms.typos := by
  simp only [ofValues, Policy.ofValues, bindOk, pureOk, Logic.ofValueOk, Budget.ofValueOk]
  constructor
  · rintro ⟨_, rfl, _, ⟨_, rfl, _, rfl, rfl⟩, rfl⟩
    exact ⟨rfl, rfl, rfl⟩
  · rintro ⟨rfl, rfl, rfl⟩
    exact ⟨_, rfl, _, ⟨_, rfl, _, rfl, rfl⟩, rfl⟩

theorem ofValuesError {f : Fault} (refused : ofValues columnLogic termLogic budget = .error f) :
    f.blamesValue = true := by
  simp only [ofValues, Policy.ofValues, bindError] at refused
  rcases refused with columns | ⟨_, _, (terms | ⟨_, _, (typos | ⟨_, _, last⟩)⟩) | ⟨_, _, last⟩⟩
  · exact Logic.ofValueError columns
  · exact Logic.ofValueError terms
  · exact Budget.ofValueError typos
  · cases last
  · cases last

theorem invalidRefused (invalid : Invalid columnLogic termLogic budget) :
    ∃ f, ofValues columnLogic termLogic budget = .error f ∧ f.blamesValue = true := by
  cases settled : ofValues columnLogic termLogic budget with
  | error f => exact ⟨f, rfl, ofValuesError settled⟩
  | ok policy =>
    obtain ⟨columns, terms, typos⟩ := ofValuesOk.mp settled
    rcases invalid with other | other | other
    · exact absurd columns (other _)
    · exact absurd terms (other _)
    · exact absurd typos (other _)

theorem validSettled : ¬Invalid columnLogic termLogic budget ↔
    ∃ policy, ofValues columnLogic termLogic budget = .ok policy := by
  constructor
  · intro valid
    simp only [Invalid, not_or, not_forall, not_not] at valid
    obtain ⟨⟨l, rfl⟩, ⟨m, rfl⟩, ⟨typos, rfl⟩⟩ := valid
    exact ⟨⟨l, ⟨m, typos⟩⟩, ofValuesOk.mpr ⟨rfl, rfl, rfl⟩⟩
  · rintro ⟨policy, settled⟩ invalid
    obtain ⟨f, refused, _⟩ := invalidRefused invalid
    rw [settled] at refused
    cases refused

end
end ColumnPolicy
end TypoSearch
