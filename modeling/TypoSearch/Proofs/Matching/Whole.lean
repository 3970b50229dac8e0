import TypoSearch.Proofs.Config.Settings
import TypoSearch.Proofs.Matching.Containment
import TypoSearch.Proofs.Similarity.Measure

/-! A pattern that stands in a target. The best alignment then loses nothing, so it reaches every cutoff, in doubles
as in exact numbers. The other measures take the rest of the target for lost: the ratio loses nothing if the
target is the pattern, and word sets if one lies within the other. -/
namespace TypoSearch
open Number (Binary64)
open Similarity (Measure Scorer Share)

/-! ## Nothing lost, in doubles -/

namespace Number.Binary64

theorem oneUnits : (1 : Binary64) = finite false unit := by decide +kernel

theorem ofNatPositive {n : Nat} (some : 0 < n) :
    (∃ u, 0 < u ∧ ofNat n = finite false u) ∨ ofNat n = infinite false := by
  have least : unit ≤ nearest (n * unit) 1 :=
    nearestAtLeast Nat.one_pos (Nat.mul_le_mul_right unit some) unitRepresentable
  have positive := unitPositive
  rw [ofNat, ofRatio, ofUnits]
  split
  · exact .inl ⟨_, by omega, rfl⟩
  · exact .inr rfl

theorem zeroOver {n : Nat} (some : 0 < n) : zero / ofNat n = zero := by
  rw [overEq]
  rcases ofNatPositive some with ⟨u, positive, number⟩ | number
  · have none : 0 * unit ≤ u * 0 := by simp
    obtain ⟨r, most, rounded⟩ :=
      ofUnitsAtMost positive none (Nat.dvd_zero _) (Nat.lt_of_le_of_lt (Nat.zero_le _) unitBelowLimit) false
    rw [Nat.le_zero.mp most] at rounded
    rw [number, zero, div, if_neg (by omega)]
    exact rounded
  · rw [number]
    rfl

end Number.Binary64

namespace Similarity
open Number.Binary64

theorem keepingWhole {total : Nat} (some : 0 < total) : (Scale.keeping 0 total : Binary64) = 1 := by
  have none : Binary64.ofNat 0 = zero := by decide +kernel
  have rest : ((1 : Binary64) - zero) * 100 / 100 = 1 := by decide +kernel
  have kept : (Scale.keeping 0 total : Binary64) = (1 - Binary64.ofNat 0 / Binary64.ofNat total) * 100 / 100 := rfl
  rw [kept, none, zeroOver some, rest]

theorem percentWhole {total : Nat} (some : 0 < total) : (Scale.percent 0 total : Binary64) = 1 := by
  have none : (100 : Binary64) * Binary64.ofNat 0 = zero := by decide +kernel
  have rest : ((100 : Binary64) - zero) / 100 = 1 := by decide +kernel
  have kept : (Scale.percent 0 total : Binary64) = (100 - 100 * Binary64.ofNat 0 / Binary64.ofNat total) / 100 := rfl
  rw [kept, none, zeroOver some, rest]

theorem wholeReaches {x : Binary64} (share : Cutoff.IsShare x) : Scale.atLeast (1 : Binary64) x = true := by
  obtain ⟨u, most, rfl⟩ := share
  change atMost (finite false u) 1 = true
  rw [oneUnits]
  exact decide_eq_true (Int.ofNat_le.mpr most)

namespace Measure

theorem numberCases {ν : Type} [Scale ν] (m : Measure) (s : Share) :
    (m.number s : ν) = Scale.percent s.lost s.total ∨ (m.number s : ν) = Scale.keeping s.lost s.total := by
  cases m with
  | tokenSetRatio => exact .inl rfl
  | partialRatio | ratio => exact .inr rfl

theorem numberWhole (m : Measure) {s : Share} (sound : s.Sound) (none : s.lost = 0) :
    (m.number s : Binary64) = 1 := by
  rcases m.numberCases (ν := Binary64) s with percent | keeping
  · rw [percent, none, percentWhole sound.some]
  · rw [keeping, none, keepingWhole sound.some]

def Whole : Measure → List Char → List Char → Prop
  | partialRatio, _, _ => True
  | ratio, as, bs => as = bs
  | tokenSetRatio, as, bs => Nested as bs

theorem containedWhole (m : Measure) {as bs : List Char} (some : 0 < as.length) (inside : as <:+: bs) :
    (m.share as bs).kept = 1 ↔ m.Whole as bs := by
  have fits := inside.length_le
  cases m with
  | partialRatio => exact iff_of_true ((alignmentWhole some (by omega)).mpr ((insideShorter fits).mp inside)) trivial
  | ratio => exact Share.ofTextsWhole some
  | tokenSetRatio => exact tokenSetWhole as bs

theorem scoreWhole (m : Measure) {pattern target : String} (some : pattern ≠ "")
    (contained : Text.containsIgnoringCase target pattern = true) :
    ((m.scorer : Scorer Rat) pattern target = 1 ↔
        m.Whole (Text.lower pattern).toList (Text.lower target).toList) ∧
      (m.Whole (Text.lower pattern).toList (Text.lower target).toList →
        (m.scorer : Scorer Binary64) pattern target = 1) := by
  have inside : (Text.lower pattern).toList <:+: (Text.lower target).toList := by
    rw [Text.lowerToList, Text.lowerToList]
    exact (Text.occursInfix _ _).mp contained
  have first := lowerSome some
  have other : target ≠ "" := by
    rintro rfl
    rw [List.infix_nil.mp inside] at first
    cases first
  have sound := m.shareSound first (lowerSome other)
  have kept := m.containedWhole first inside
  refine ⟨(scoreKept m some other).symm ▸ kept, fun whole => ?_⟩
  have filled : (pattern.isEmpty || target.isEmpty) ≠ true := by simp [some, other]
  rw [scorer, if_neg filled, ← Text.lowerToList, ← Text.lowerToList]
  exact m.numberWhole sound ((Share.soundWhole sound).mp (kept.mpr whole))

theorem ofName (m : Measure) : ofValue (.text m.name) = .ok m := by
  cases m <;> rfl

end Measure
end Similarity

/-! ## Raising the budget of a contained pattern -/

namespace Matching

theorem wholeMatched (scorer : Scorer Binary64) {target pattern : String}
    (contained : Text.containsIgnoringCase target pattern = true)
    (whole : pattern.length < trigramLength ∨ scorer pattern target = 1) {budget : Value} {b : Bool}
    (answered : (matchTerm (recorded scorer) (some target) pattern budget).run.1 = .ok b) : b = true := by
  obtain ⟨check, planned, answer⟩ := settledOk.mp answered
  obtain ⟨typos, _, made⟩ := Outcome.bindOk.mp planned
  rw [termAnswer, matchesTermHolds, Except.ok.injEq] at answer
  rw [← answer]
  cases Plan.termOk.mp made with
  | contains easy => exact contained
  | similarity long nonzero cutoff =>
    have one : scorer pattern target = 1 := whole.resolve_left (by omega)
    rw [Option.any_some, TermCheck.holds, one]
    exact Similarity.wholeReaches (Cutoff.ofLengthShare long cutoff)

theorem matchedContained (scorer : Scorer Binary64) {target pattern : String}
    (matched : (matchTerm (recorded scorer) (some target) pattern (.int 0)).run.1 = .ok true) :
    Text.containsIgnoringCase target pattern = true := by
  rw [matchTermNone] at matched
  exact Except.ok.inj matched

theorem wholeRaised (m : Measure) {pattern target : String}
    (whole : pattern.length < trigramLength ∨ m.Whole (Text.lower pattern).toList (Text.lower target).toList)
    (matched : (matchTerm (recorded (m.scorer : Scorer Binary64)) (some target) pattern (.int 0)).run.1 = .ok true)
    {budget : Value} {b : Bool}
    (answered : (matchTerm (recorded (m.scorer : Scorer Binary64)) (some target) pattern budget).run.1 = .ok b) :
    b = true := by
  have contained := matchedContained m.scorer matched
  refine wholeMatched m.scorer contained ?_ answered
  by_cases short : pattern.length < trigramLength
  · exact .inl short
  · have some : pattern ≠ "" := by
      rintro rfl
      exact short (by decide)
    exact .inr ((m.scoreWhole some contained).2 (whole.resolve_left short))

theorem scorerKnown {root : Config.Section} {s : Settings} (accepted : Settings.ofValue (.dict root) = .ok s) :
    ∃ m : Measure, Measure.ofValue (.text s.matching.scorer) = .ok m := by
  have known := (Config.ofRootOk.mp accepted).2.scorer
  obtain ⟨m, _, same⟩ := List.mem_map.mp known
  exact ⟨m, same ▸ m.ofName⟩

/-- A measure gives one for a contained pattern exactly if it finds what it asks of the target. Then, or for a
pattern too short to be scored, a match without typos is a match under every budget, whichever measure the
settings name. The best alignment asks nothing. -/
theorem containedScored (pattern target : String) :
    (∀ m : Measure, Measure.ofValue (.text m.name) = .ok m ∧
      (pattern ≠ "" → Text.containsIgnoringCase target pattern = true →
        ((m.scorer : Scorer Rat) pattern target = 1 ↔
          m.Whole (Text.lower pattern).toList (Text.lower target).toList) ∧
        (m.Whole (Text.lower pattern).toList (Text.lower target).toList →
          (m.scorer : Scorer Binary64) pattern target = 1))) ∧
    ∀ (root : Config.Section) (s : Settings), Settings.ofValue (.dict root) = .ok s →
      ∃ m : Measure, Measure.ofValue (.text s.matching.scorer) = .ok m ∧
        (pattern.length < trigramLength ∨ m.Whole (Text.lower pattern).toList (Text.lower target).toList →
          (matchTerm (recorded (m.scorer : Scorer Binary64)) (some target) pattern (.int 0)).run.1 = .ok true →
          ∀ (budget : Value) (b : Bool),
            (matchTerm (recorded (m.scorer : Scorer Binary64)) (some target) pattern budget).run.1 = .ok b →
              b = true) := by
  refine ⟨fun m => ⟨m.ofName, m.scoreWhole⟩, fun root s accepted => ?_⟩
  obtain ⟨m, named⟩ := scorerKnown accepted
  exact ⟨m, named, fun whole matched budget b answered => wholeRaised m whole matched answered⟩

def measuring (m : Measure) : Settings :=
  { Settings.standard with matching := { Settings.standard.matching with scorer := m.name } }

theorem measuringAccepted (m : Measure) : Settings.ofValue (measuring m).toValue = .ok (measuring m) := by
  refine Config.reread { Config.standardChecked with scorer := ?_ }
  cases m <;> decide

theorem containedScoredWord :
    Settings.ofValue (measuring .tokenSetRatio).toValue = .ok (measuring .tokenSetRatio) ∧
      (Measure.tokenSetRatio.scorer : Scorer Binary64) "MANAGER" "Senior Sales Manager" = 1 ∧
      (matchTerm (recorded (Measure.tokenSetRatio.scorer : Scorer Binary64)) (some "Senior Sales Manager")
        "MANAGER" (.int 2)).run.1 = .ok true := by
  have whole : Measure.tokenSetRatio.Whole (Text.lower "MANAGER").toList (Text.lower "Senior Sales Manager").toList :=
    Similarity.Nested.mk (by decide +kernel) (by decide +kernel) (.inl (by decide +kernel))
  have contained : Text.containsIgnoringCase "Senior Sales Manager" "MANAGER" = true := by decide +kernel
  have accepted := measuringAccepted .tokenSetRatio
  obtain ⟨scored, configured⟩ := containedScored "MANAGER" "Senior Sales Manager"
  obtain ⟨m, named, matched⟩ := configured _ _ accepted
  cases Except.ok.inj (named.symm.trans (Measure.ofName .tokenSetRatio))
  have without := matchTermNone (Measure.tokenSetRatio.scorer : Scorer Binary64) "Senior Sales Manager" "MANAGER"
  rw [contained] at without
  obtain ⟨check, asks⟩ := @Plan.asksConverted 2 "MANAGER" ⟨by decide +kernel, by decide +kernel⟩
  have planned : (Plan.termOf (.int 2) "MANAGER" : Except Fault (TermCheck String Binary64)) = .ok check :=
    Outcome.bindOk.mpr ⟨2, rfl, Plan.termOk.mpr asks⟩
  have answered := matchTermAnswer Measure.tokenSetRatio.scorer planned (some "Senior Sales Manager")
  rw [matched (.inr whole) without _ _ answered] at answered
  exact ⟨accepted, ((scored .tokenSetRatio).2 (by decide) contained).2 whole, answered⟩

structure Drops (m : Measure) (target pattern : String) : Prop where
  accepted : Settings.ofValue (measuring m).toValue = .ok (measuring m)
  named : Measure.ofValue (.text (measuring m).matching.scorer) = .ok m
  contained : Text.containsIgnoringCase target pattern = true
  score : (m.scorer : Scorer Binary64) pattern target ≠ 1
  without : (matchTerm (recorded (m.scorer : Scorer Binary64)) (some target) pattern (.int 0)).run.1 = .ok true
  allowed : (matchTerm (recorded (m.scorer : Scorer Binary64)) (some target) pattern (.int 1)).run.1 = .ok false

theorem containedDropped :
    Drops .ratio "abcdefghijklmnop" "abc" ∧ Drops .tokenSetRatio "abcdefghijklmnop" "abc" := by
  constructor
  · exact ⟨measuringAccepted .ratio, Measure.ofName .ratio, by decide +kernel, by decide +kernel,
      Outcome.optionOk (by decide +kernel), Outcome.optionOk (by decide +kernel)⟩
  · exact ⟨measuringAccepted .tokenSetRatio, Measure.ofName .tokenSetRatio, by decide +kernel, by decide +kernel,
      Outcome.optionOk (by decide +kernel), Outcome.optionOk (by decide +kernel)⟩

end Matching
end TypoSearch
