import TypoSearch.Proofs.Plan.Rounded
import TypoSearch.Proofs.Plan.Terms

/-! The shape of the cutoff over all lengths and budgets. It falls with the budget, rises with the length, also
where lengths begin to have trigrams, and is a number from zero to one. This is so in exact numbers and stays so
when the quotient is rounded, if only rounding keeps the order, and zero and one as they are. -/
namespace TypoSearch
open Number (Binary64 Rounding exactRounding)
open Number.Binary64 (Whole nearestRat nearestRounding)

namespace Cutoff

theorem closedLeast (round : Rat → Rat) (length typos : Nat) : 0 ≤ closedForm round length typos := by
  unfold closedForm
  split
  · split
    · exact le_refl 0
    · exact zero_le_one
  · exact le_max_left _ _

section
variable {round : Rat → Rat} (rounding : Rounding round)
include rounding

theorem closedMost (length typos : Nat) : closedForm round length typos ≤ 1 := by
  unfold closedForm
  split
  · split
    · exact zero_le_one
    · exact le_refl 1
  · refine max_le zero_le_one ?_
    rw [← rounding.one]
    exact rounding.monotone (survivingMost length typos)

theorem closedWhole (length : Nat) : closedForm round length 0 = 1 := by
  unfold closedForm
  split
  · rfl
  · rw [survivingWhole.mpr rfl, rounding.one]
    exact max_eq_right zero_le_one

theorem closedFalls (length : Nat) : Antitone (closedForm round length) := by
  intro fewer more le
  rcases Nat.eq_zero_or_pos fewer with rfl | some
  · rw [closedWhole rounding]
    exact closedMost rounding length more
  · rcases Nat.lt_or_ge length trigramLength with short | long
    · rw [closedShort round short (Nat.lt_of_lt_of_le some le)]
      exact closedLeast round length fewer
    · rw [closedLong round long, closedLong round long]
      exact max_le_max_left 0 (rounding.monotone (survivingFalls length le))

theorem closedRises (typos : Nat) : Monotone fun length => closedForm round length typos := by
  intro shorter longer le
  dsimp only
  rcases Nat.eq_zero_or_pos typos with rfl | some
  · rw [closedWhole rounding, closedWhole rounding]
  · rcases Nat.lt_or_ge shorter trigramLength with short | long
    · rw [closedShort round short some]
      exact closedLeast round longer typos
    · rw [closedLong round long, closedLong round (Nat.le_trans long le)]
      exact max_le_max_left 0 (rounding.monotone (survivingRises typos le))

end

section
variable {length typos : Nat} (long : trigramLength ≤ length)
include long

theorem exactBelow (some : 0 < typos) : closedForm id length typos < 1 := by
  have less : surviving length typos ≠ 1 := fun whole => Nat.ne_of_gt some (survivingWhole.mp whole)
  rw [closedLong id long]
  exact max_lt zero_lt_one (lt_of_le_of_ne (survivingMost length typos) less)

theorem exactWhole : closedForm id length typos = 1 ↔ typos = 0 := by
  constructor
  · intro whole
    by_contra some
    exact ne_of_lt (exactBelow long (Nat.pos_of_ne_zero some)) whole
  · rintro rfl
    exact closedWhole exactRounding length

theorem exactNone : closedForm id length typos = 0 ↔ length + 2 ≤ 3 * typos := by
  rw [closedLong id long, ← survivingNone]
  exact max_eq_left_iff

end

structure Ordered (ν : Type) [Scale ν] : Prop where
  bounded (length typos : Nat) : ∃ x : ν, ofValues (.int length) (.int typos) = .ok x ∧
    Scale.atLeast x Scale.zero ∧ Scale.atLeast Scale.one x
  falling (length : Nat) {fewer more : Nat} (le : fewer ≤ more) : ∃ x y : ν,
    ofValues (.int length) (.int fewer) = .ok x ∧ ofValues (.int length) (.int more) = .ok y ∧ Scale.atLeast x y
  rising (typos : Nat) {shorter longer : Nat} (le : shorter ≤ longer) : ∃ x y : ν,
    ofValues (.int shorter) (.int typos) = .ok x ∧ ofValues (.int longer) (.int typos) = .ok y ∧ Scale.atLeast y x

section
variable {ν : Type} [Scale ν] {round : Rat → Rat} {value : ν → Rat} (rounds : Rounds ν round value)
  (rounding : Rounding round)
include rounds rounding

theorem cutoffBounded {length typos : Nat} {x : ν} (made : ofLength length typos = .ok x) :
    Scale.atLeast x Scale.zero ∧ Scale.atLeast Scale.one x := by
  rw [rounds.atLeast, rounds.atLeast, rounds.zero, rounds.one, cutoffValue rounds made]
  exact ⟨closedLeast round length typos, closedMost rounding length typos⟩

theorem cutoffFalls {length fewer more : Nat} {x y : ν} (le : fewer ≤ more)
    (first : ofLength length fewer = .ok x) (second : ofLength length more = .ok y) : Scale.atLeast x y := by
  rw [rounds.atLeast, cutoffValue rounds first, cutoffValue rounds second]
  exact closedFalls rounding length le

theorem cutoffRises {shorter longer typos : Nat} {x y : ν} (le : shorter ≤ longer)
    (first : ofLength shorter typos = .ok x) (second : ofLength longer typos = .ok y) : Scale.atLeast y x := by
  rw [rounds.atLeast, cutoffValue rounds first, cutoffValue rounds second]
  exact closedRises rounding typos le

theorem ordered : Ordered ν where
  bounded length typos := by
    obtain ⟨x, made, _⟩ := cutoffMade rounds length typos
    exact ⟨x, made, cutoffBounded rounds rounding made⟩
  falling length fewer more le := by
    obtain ⟨x, first, _⟩ := cutoffMade rounds length fewer
    obtain ⟨y, second, _⟩ := cutoffMade rounds length more
    exact ⟨x, y, first, second, cutoffFalls rounds rounding le first second⟩
  rising typos shorter longer le := by
    obtain ⟨x, first, _⟩ := cutoffMade rounds shorter typos
    obtain ⟨y, second, _⟩ := cutoffMade rounds longer typos
    exact ⟨x, y, first, second, cutoffRises rounds rounding le first second⟩

end

end Cutoff

namespace Plan
open Cutoff (Rounds cutoffMade cutoffValue cutoffBounded cutoffFalls)

structure Ordered (ν : Type) [Scale ν] : Prop where
  contained {typos : Nat} {pattern : String} (easy : pattern.length < 3 ∨ typos = 0) :
    (termOf (.int typos) pattern : Except Fault (TermCheck String ν)) = .ok ⟨pattern, .contains⟩
  bounded {typos : Nat} {pattern : String} {check : TermCheck String ν} {x : ν}
    (planned : termOf (.int typos) pattern = .ok check) (scored : check.regime = .similarity x) :
    Scale.atLeast x Scale.zero ∧ Scale.atLeast Scale.one x
  falling {fewer more : Nat} {pattern : String} (long : 3 ≤ pattern.length) (some : 1 ≤ fewer) (le : fewer ≤ more) :
    ∃ x y : ν, termOf (.int fewer) pattern = .ok ⟨pattern, .similarity x⟩ ∧
      termOf (.int more) pattern = .ok ⟨pattern, .similarity y⟩ ∧ Scale.atLeast x y

section
variable {ν : Type} [Scale ν] {typos : Nat} {pattern : String}

theorem scoredMade {check : TermCheck String ν} {x : ν} (planned : termOf (.int typos) pattern = .ok check)
    (scored : check.regime = .similarity x) : trigramLength ≤ pattern.length ∧ 0 < typos ∧
      Cutoff.ofLength pattern.length (typos + extraTypos pattern.length) = .ok x := by
  cases termOk.mp planned with
  | contains easy => cases scored
  | similarity long nonzero made =>
    cases scored
    exact ⟨long, Nat.pos_of_ne_zero nonzero, made⟩

theorem scoredPlanned {x : ν} (long : trigramLength ≤ pattern.length) (some : 0 < typos)
    (made : Cutoff.ofLength pattern.length (typos + extraTypos pattern.length) = .ok x) :
    termOf (.int typos) pattern = .ok ⟨pattern, .similarity x⟩ :=
  termOk.mpr (.similarity long (Nat.ne_of_gt some) made)

theorem ordered {round : Rat → Rat} {value : ν → Rat} (rounds : Rounds ν round value)
    (rounding : Rounding round) : Ordered ν where
  contained easy := termEasy easy
  bounded planned scored := cutoffBounded rounds rounding (scoredMade planned scored).2.2
  falling {fewer more pattern} long some le := by
    obtain ⟨x, first, _⟩ := cutoffMade rounds pattern.length (fewer + extraTypos pattern.length)
    obtain ⟨y, second, _⟩ := cutoffMade rounds pattern.length (more + extraTypos pattern.length)
    exact ⟨x, y, scoredPlanned long some first, scoredPlanned long (Nat.le_trans some le) second,
      cutoffFalls rounds rounding (Nat.add_le_add_right le _) first second⟩

theorem scoredBelow {check : TermCheck String Rat} {x : Rat} (planned : termOf (.int typos) pattern = .ok check)
    (scored : check.regime = .similarity x) : 0 ≤ x ∧ x < 1 := by
  obtain ⟨long, some, made⟩ := scoredMade planned scored
  have value : x = Cutoff.closedForm id pattern.length (typos + extraTypos pattern.length) :=
    cutoffValue Cutoff.exactRounds made
  rw [value]
  exact ⟨Cutoff.closedLeast id _ _, Cutoff.exactBelow long (Nat.add_pos_left some _)⟩

theorem exactCutoff {length : Nat} (long : trigramLength ≤ length) (typos : Nat) :
    ∃ x : Rat, Cutoff.ofLength length typos = .ok x ∧
      (x = 1 ↔ typos = 0) ∧ (x = 0 ↔ length + 2 ≤ 3 * typos) := by
  obtain ⟨x, made, value⟩ := cutoffMade Cutoff.exactRounds length typos
  have same : x = Cutoff.closedForm id length typos := value
  refine ⟨x, made, ?_⟩
  rw [same]
  exact ⟨Cutoff.exactWhole long, Cutoff.exactNone long⟩

end

/-- The shape of the cutoffs in exact numbers, and what of it is left when the quotient is rounded. Doubles round
in such a way, wherever nothing but the quotient has to be rounded. -/
theorem cutoffsShaped :
    (Cutoff.Ordered Rat ∧ Ordered Rat) ∧
    (∀ length typos : Nat, 3 ≤ length → ∃ x : Rat, Cutoff.ofValues (.int length) (.int typos) = .ok x ∧
      (x = 1 ↔ typos = 0) ∧ (x = 0 ↔ length + 2 ≤ 3 * typos)) ∧
    (∀ (typos : Nat) (pattern : String) (check : TermCheck String Rat) (x : Rat),
      termOf (.int typos) pattern = .ok check → check.regime = .similarity x → 0 ≤ x ∧ x < 1) ∧
    (∀ round : Rat → Rat, Rounding round → Cutoff.Ordered (Rounded round) ∧ Ordered (Rounded round)) ∧
    Rounding nearestRat ∧
    ∀ length typos : Nat, Whole (length + 2) → Whole (3 * typos) → ∃ u : Nat,
      Cutoff.ofValues (.int length) (.int typos) = .ok (Binary64.finite false u) ∧
      Cutoff.ofValues (.int length) (.int typos) = .ok (⟨u / Binary64.unit⟩ : Rounded nearestRat) := by
  have exact := Cutoff.exactRounds
  refine ⟨⟨Cutoff.ordered exact exactRounding, ordered exact exactRounding⟩, ?_, ?_, ?_, nearestRounding, ?_⟩
  · intro length typos long
    exact exactCutoff long typos
  · intro typos pattern check x planned scored
    exact scoredBelow planned scored
  · intro round rounding
    have rounds := Cutoff.roundedRounds round
    exact ⟨Cutoff.ordered rounds rounding, ordered rounds rounding⟩
  · intro length typos sum product
    exact Cutoff.wholeCutoff sum product

theorem cutoffsShapedKitchen :
    (2 ≤ 3 ∧ ∃ x y : Rat, Cutoff.ofValues (.int 2) (.int 1) = .ok x ∧ Cutoff.ofValues (.int 3) (.int 1) = .ok y ∧
      Scale.atLeast y x) ∧
    (3 ≤ 7 ∧ Cutoff.ofValues (.int 7) (.int 3) = .ok (0 : Rat)) ∧
    (termOf (.int 1) "kitchen" = .ok (⟨"kitchen", .similarity (1 / 3)⟩ : TermCheck String Rat) ∧
      (0 : Rat) ≤ 1 / 3 ∧ (1 / 3 : Rat) < 1) ∧
    (Rounding nearestRat ∧ ∃ x y : Rounded nearestRat, termOf (.int 1) "kitchen" = .ok ⟨"kitchen", .similarity x⟩ ∧
      termOf (.int 2) "kitchen" = .ok ⟨"kitchen", .similarity y⟩ ∧ Scale.atLeast x y) ∧
    (Whole (7 + 2) ∧ Whole (3 * 2) ∧ ∃ u : Nat,
      Cutoff.ofValues (.int 7) (.int 2) = .ok (Binary64.finite false u) ∧
      Cutoff.ofValues (.int 7) (.int 2) = .ok (⟨u / Binary64.unit⟩ : Rounded nearestRat)) := by
  obtain ⟨⟨lengths, _⟩, exact, below, rounded, rounding, doubles⟩ := cutoffsShaped
  have scored : termOf (.int 1) "kitchen" = .ok (⟨"kitchen", .similarity (1 / 3)⟩ : TermCheck String Rat) :=
    Outcome.optionOk (by decide +kernel)
  obtain ⟨x, made, _, none⟩ := exact 7 3 (by decide)
  rw [none.mpr (by decide)] at made
  have falling := (rounded nearestRat rounding).2.falling (show 3 ≤ "kitchen".length by decide) (Nat.le_refl 1)
    (show 1 ≤ 2 by decide)
  exact ⟨⟨by decide, lengths.rising 1 (show 2 ≤ 3 by decide)⟩, ⟨by decide, made⟩,
    ⟨scored, below 1 "kitchen" _ _ scored rfl⟩, ⟨rounding, falling⟩,
    ⟨by decide, by decide, doubles 7 2 (by decide) (by decide)⟩⟩

end Plan
end TypoSearch
