import TypoSearch.Proofs.Matching
import TypoSearch.Proofs.Text.Sigma

/-! A term under no budget at all. It is found in the values that contain it when case is ignored. A term that
stands in a value as it is can still be missed, since both are lowered as wholes: it is found in every such
value exactly if its capital sigmas have their forms settled within the term. -/
namespace TypoSearch
open Similarity (Measure Scorer)
open Number (Binary64)

namespace Matching

section
variable {ν : Type} [Scale ν] (scorer : Scorer ν)

theorem matchTermNone (target pattern : String) :
    (matchTerm (recorded scorer) (some target) pattern (.int 0)).run.1 =
      .ok (Text.containsIgnoringCase target pattern) := by
  have planned : (Plan.termOf (.int 0) pattern : Except Fault (TermCheck String ν)) =
      .ok ⟨pattern, .contains⟩ := Plan.termOk.mpr (.contains (.inr rfl))
  rw [matchTermAnswer scorer planned, matchesContained scorer rfl]

structure Finds (target pattern : String) : Prop where
  contained : Text.containsIgnoringCase target pattern = true
  matched : (matchTerm (recorded scorer) (some target) pattern (.int 0)).run.1 = .ok true

theorem findsContained {target pattern : String} :
    Finds scorer target pattern ↔ Text.lowerChars pattern.toList <:+: Text.lowerChars target.toList := by
  rw [← Text.occursInfix]
  refine ⟨Finds.contained, fun contained => ⟨contained, ?_⟩⟩
  rw [matchTermNone, Text.containsIgnoringCase, contained]

theorem findsAlike {before pattern after : String}
    (alike : Text.LoweredAlike before.toList after.toList pattern.toList) :
    Finds scorer (before ++ pattern ++ after) pattern := by
  rw [findsContained, String.toList_append, String.toList_append]
  exact Text.alikeStands alike

theorem settledWithout {pattern : String} (none : Text.capitalSigma ∉ pattern.toList) :
    Text.Settled pattern.toList := by
  intro first rest split
  rw [split] at none
  exact absurd (List.mem_append_right first List.mem_cons_self) none

theorem standingFound :
    (∀ before pattern after : String, Text.LoweredAlike before.toList after.toList pattern.toList →
      Finds scorer (before ++ pattern ++ after) pattern) ∧
    (∀ pattern : String, Text.Settled pattern.toList ↔
      ∀ before after : String, Finds scorer (before ++ pattern ++ after) pattern) ∧
    ∀ pattern : String, Text.capitalSigma ∉ pattern.toList → Text.Settled pattern.toList := by
  refine ⟨fun _ _ _ => findsAlike scorer, fun pattern => ⟨?_, fun found => ?_⟩, fun _ => settledWithout⟩
  · intro settled before after
    exact findsAlike scorer (Text.settledAlike settled before.toList after.toList)
  · refine Text.standsSettled fun before after => ?_
    have stands := (findsContained scorer).mp (found (String.ofList before) (String.ofList after))
    simpa using stands

end

theorem standingFoundBetween :
    Finds (Measure.partialRatio.scorer : Scorer Binary64) ("Ο" ++ "Σ" ++ "Α") "Σ" ∧
      Text.capitalSigma ∉ "İΛΙΑΔΑ".toList ∧
      Finds (Measure.partialRatio.scorer : Scorer Binary64) ("Η " ++ "İΛΙΑΔΑ" ++ "Σ") "İΛΙΑΔΑ" := by
  have found := standingFound (Measure.partialRatio.scorer : Scorer Binary64)
  have alike : Text.LoweredAlike "Ο".toList "Α".toList "Σ".toList := by
    intro first rest split
    cases first with
    | nil =>
      cases split
      decide +kernel
    | cons c first =>
      have lengths := congrArg List.length split
      simp at lengths
  have without : Text.capitalSigma ∉ "İΛΙΑΔΑ".toList := by decide +kernel
  exact ⟨found.1 "Ο" "Σ" "Α" alike, without, (found.2.1 _).mp (found.2.2 _ without) "Η " "Σ"⟩

theorem standingMissed :
    Text.containsIgnoringCase ("Α" ++ "Σ" ++ "") "Σ" = false ∧
      (matchTerm (recorded (Measure.partialRatio.scorer : Scorer Binary64)) (some ("Α" ++ "Σ" ++ "")) "Σ"
        (.int 0)).run.1 = .ok false ∧
      Text.containsIgnoringCase ("" ++ "ΟΣ" ++ "Α") "ΟΣ" = false := by
  refine ⟨by decide +kernel, ?_, by decide +kernel⟩
  rw [matchTermNone]
  exact congrArg Except.ok (by decide +kernel)

end Matching
end TypoSearch
