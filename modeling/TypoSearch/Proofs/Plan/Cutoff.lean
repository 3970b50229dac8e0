import TypoSearch.Cutoff
import TypoSearch.Proofs.Number.Rounding

/-! A cutoff in doubles is a number from zero to one, also where one of its intermediate values leaves the
range: the trigrams lost are then more than all, and nothing has to survive. -/
namespace TypoSearch.Cutoff
open Number Number.Binary64

def IsShare (x : Binary64) : Prop := ∃ u ≤ unit, x = finite false u

theorem zeroShare : IsShare zero := ⟨0, Nat.zero_le _, rfl⟩

theorem shareClamped {x : Binary64} (share : IsShare x) : IsShare x.clampBelow := by
  unfold clampBelow
  split
  · exact share
  · exact zeroShare

theorem clampedNone {x : Binary64} (low : below zero x = false) : x.clampBelow = zero := by
  rw [clampBelow, low]
  rfl

theorem clampedShare {x : Binary64} (low : below zero x = false) : IsShare x.clampBelow := by
  rw [clampedNone low]
  exact zeroShare

theorem clampedSame (u : Nat) : (finite false u).clampBelow = finite false u := by
  rcases Nat.eq_zero_or_pos u with rfl | some
  · exact clampedNone (by decide)
  · have above : below zero (finite false u) = true := decide_eq_true (Int.natCast_pos.mpr some)
    rw [clampBelow, if_pos above]

theorem negativeLow (u : Nat) : below zero (finite true u) = false := by
  simp [below, zero, rank?]

theorem negativeInfiniteLow : below zero (infinite true) = false := by decide +kernel

theorem nanLow : below zero nan = false := rfl

theorem quotientShare {r w : Nat} (positive : 0 < w) (bound : r ≤ w) :
    IsShare (div (finite false r) (finite false w)).clampBelow := by
  have whole : r * unit ≤ w * unit := Nat.mul_le_mul_right _ bound
  obtain ⟨q, le, same⟩ := ofUnitsAtMost positive whole unitRepresentable unitBelowLimit false
  apply shareClamped
  refine ⟨q, le, ?_⟩
  simp only [div, Nat.ne_of_gt positive, if_false, bne_self_eq_false]
  exact same

theorem negativeQuotient (r : Nat) {w : Nat} (positive : 0 < w) :
    below zero (div (finite true r) (finite false w)) = false := by
  simp only [div, Nat.ne_of_gt positive, if_false, Bool.bne_false]
  rcases ofUnitsCases true (r * unit) positive with ⟨q, _, _, same⟩ | same
  · rw [same]
    exact negativeLow q
  · rw [same]
    exact negativeInfiniteLow

theorem two : ∃ t, 0 < t ∧ Representable t ∧ (2 : Binary64) = finite false t := by
  refine ⟨1 <<< 1075, powerPositive _, powerRepresentable _, ?_⟩
  decide +kernel

theorem three : ∃ t, (3 : Binary64) = finite false t := ⟨3 <<< 1074, by decide +kernel⟩

theorem lengthened (u : Nat) :
    (∃ w, 0 < w ∧ w < limit ∧ Representable w ∧ add (finite false u) 2 = finite false w) ∨
      add (finite false u) 2 = infinite false := by
  obtain ⟨t, positive, exact, same⟩ := two
  have sum : add (finite false u) (finite false t) = ofUnits false (u + t) 1 := by simp [add]
  rw [same, sum]
  have least : t ≤ nearest (u + t) 1 := nearestAtLeast Nat.one_pos (by omega) exact
  unfold ofUnits
  dsimp only
  split
  · rename_i inRange
    exact .inl ⟨_, by omega, inRange, nearestRepresentable Nat.one_pos, rfl⟩
  · exact .inr rfl

theorem tripled (v : Nat) :
    (∃ l, mul 3 (finite false v) = finite false l) ∨ mul 3 (finite false v) = infinite false := by
  obtain ⟨t, same⟩ := three
  have product : mul (finite false t) (finite false v) = ofUnits false (t * v) unit := by simp [mul]
  rw [same, product]
  rcases ofUnitsCases false (t * v) unitPositive with ⟨l, _, _, rounded⟩ | rounded
  · exact .inl ⟨l, rounded⟩
  · exact .inr rounded

theorem remainderShare {w : Nat} (positive : 0 < w) (inRange : w < limit) (exact : Representable w)
    (l : Nat) :
    IsShare (div (add (finite false w) (finite true l)) (finite false w)).clampBelow := by
  simp only [add, Bool.false_eq_true, if_false]
  split
  · obtain ⟨r, le, same⟩ := ofUnitsAtMost Nat.one_pos (n := w - l) (by omega) exact inRange false
    rw [same]
    exact quotientShare positive le
  · split
    · rcases ofUnitsCases true (l - w) Nat.one_pos with ⟨r, _, _, same⟩ | same
      · rw [same]
        exact clampedShare (negativeQuotient r positive)
      · rw [same]
        exact clampedShare negativeInfiniteLow
    · exact quotientShare positive (Nat.zero_le w)

theorem survivorsEq (n k : Binary64) :
    Scale.survivors n k = ((n + 2 - 3 * k) / (n + 2)).clampBelow := rfl

theorem survivorsShare (u v : Nat) :
    IsShare (Scale.survivors (finite false u) (finite false v)) := by
  rw [survivorsEq, overEq, minusEq, plusEq, timesEq]
  rcases lengthened u with ⟨w, positive, inRange, exact, whole⟩ | whole <;>
    rcases tripled v with ⟨l, lost⟩ | lost <;> rw [whole, lost]
  · exact remainderShare positive inRange exact l
  · exact clampedShare negativeInfiniteLow
  · exact clampedShare nanLow
  · exact clampedShare nanLow

theorem ofNatEq (n : Nat) :
    (Scale.ofNat n : Except Fault Binary64) = (ofInt? n).elim (.error Fault.tooLarge) .ok := rfl

theorem elimOk {α : Type} {found : Option α} {f : Fault} {x : α}
    (ok : found.elim (.error f) .ok = Except.ok x) : found = some x := by
  cases found with
  | none => cases ok
  | some y => rw [Except.ok.inj ok]

theorem ofNatFinite {n : Nat} {x : Binary64} (converted : Scale.ofNat n = .ok x) :
    ∃ u, x = finite false u := by
  rw [ofNatEq] at converted
  obtain ⟨u, _, _, same⟩ := ofIntCases (elimOk converted)
  rw [decide_eq_false (Int.not_lt.mpr (Int.natCast_nonneg n))] at same
  exact ⟨u, same⟩

section
variable {ν : Type} [Scale ν]

theorem ofLengthSteps {length : Nat} (least : trigramLength ≤ length) (typos : Nat) :
    (ofLength length typos : Except Fault ν) = do
      return Scale.survivors (← Scale.ofNat length) (← Scale.ofNat typos) := by
  simp only [ofLength, Nat.not_lt.mpr least, if_false]

theorem ofLengthOk {length typos : Nat} {x : ν} (least : trigramLength ≤ length)
    (made : ofLength length typos = .ok x) :
    ∃ n k, Scale.ofNat length = .ok n ∧ Scale.ofNat typos = .ok k ∧ x = Scale.survivors n k := by
  rw [ofLengthSteps least] at made
  cases hn : (Scale.ofNat length : Except Fault ν) with
  | error f => rw [hn] at made; cases made
  | ok n =>
    cases hk : (Scale.ofNat typos : Except Fault ν) with
    | error f => rw [hn, hk] at made; cases made
    | ok k =>
      rw [hn, hk] at made
      cases made
      exact ⟨n, k, rfl, rfl, rfl⟩

end

theorem ofLengthShare {length typos : Nat} {x : Binary64} (least : trigramLength ≤ length)
    (made : ofLength length typos = .ok x) : IsShare x := by
  obtain ⟨n, k, hn, hk, rfl⟩ := ofLengthOk least made
  obtain ⟨u, rfl⟩ := ofNatFinite hn
  obtain ⟨v, rfl⟩ := ofNatFinite hk
  exact survivorsShare u v

section
variable {length typos : Nat} (long : trigramLength ≤ length)
include long

theorem ofLengthConverted (size : (ofInt? length).isSome) (budget : (ofInt? typos).isSome) :
    ∃ x : Binary64, ofLength length typos = .ok x := by
  obtain ⟨n, size⟩ := Option.isSome_iff_exists.mp size
  obtain ⟨k, budget⟩ := Option.isSome_iff_exists.mp budget
  refine ⟨Scale.survivors n k, ?_⟩
  rw [ofLengthSteps long, ofNatEq, ofNatEq, size, budget]
  rfl

theorem ofLengthOverflow (beyond : ¬((ofInt? length).isSome ∧ (ofInt? typos).isSome)) :
    (ofLength length typos : Except Fault Binary64) = .error .tooLarge := by
  rw [ofLengthSteps long, ofNatEq, ofNatEq]
  cases size : ofInt? length with
  | none => rfl
  | some n =>
    cases budget : ofInt? typos with
    | none => rfl
    | some k => exact absurd ⟨by rw [size]; rfl, by rw [budget]; rfl⟩ beyond

end

end TypoSearch.Cutoff
