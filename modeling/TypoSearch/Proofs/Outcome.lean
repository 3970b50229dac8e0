import TypoSearch.Fault
import Mathlib.Data.List.Forall2

/-! Computations that may fail: what a success says about each of their steps. -/
namespace TypoSearch.Outcome
variable {α β : Type}

theorem okBind (a : α) (next : α → Except Fault β) : ((.ok a : Except Fault α) >>= next) = next a := rfl

theorem bindOk {x : Except Fault α} {next : α → Except Fault β} {b : β} :
    (x >>= next) = .ok b ↔ ∃ a, x = .ok a ∧ next a = .ok b := by
  cases x with
  | error f => simp [bind, Except.bind]
  | ok a => simp [bind, Except.bind]

theorem bindError {x : Except Fault α} {next : α → Except Fault β} {f : Fault} :
    (x >>= next) = .error f ↔ x = .error f ∨ ∃ a, x = .ok a ∧ next a = .error f := by
  cases x with
  | error g => simp [bind, Except.bind]
  | ok a => simp [bind, Except.bind]

theorem pureOk {a b : α} : (pure a : Except Fault α) = .ok b ↔ a = b := by
  simp [pure, Except.pure]

theorem optionOk {x : Except Fault α} {a : α} (same : x.toOption = some a) : x = .ok a := by
  cases x with
  | error f => cases same
  | ok b => rw [Option.some.inj same]

theorem unlessOk {p : Prop} [Decidable p] {f : Fault} {rest : Except Fault α} {a : α} :
    (if p then .error f else rest) = .ok a ↔ ¬p ∧ rest = .ok a := by
  split <;> simp_all

theorem decided {x : Except Fault α} {good : Prop} {p : α → Prop} {f : Fault}
    (made : good → ∃ a, x = .ok a ∧ p a) (failed : ¬good → x = .error f) :
    ((∃ a, x = .ok a ∧ p a) ↔ good) ∧ (x = .error f ↔ ¬good) := by
  by_cases holds : good
  · obtain ⟨a, same, fact⟩ := made holds
    refine ⟨iff_of_true ⟨a, same, fact⟩ holds, iff_of_false ?_ (not_not_intro holds)⟩
    rw [same]
    exact nofun
  · refine ⟨iff_of_false ?_ holds, iff_of_true (failed holds) holds⟩
    rintro ⟨a, same, _⟩
    rw [failed holds] at same
    cases same

theorem mapOk {f : α → Except Fault β} {xs : List α} {ys : List β} :
    xs.mapM f = .ok ys ↔ List.Forall₂ (fun x y => f x = .ok y) xs ys := by
  induction xs generalizing ys with
  | nil => cases ys <;> simp [pure, Except.pure]
  | cons x xs ih =>
    rw [List.mapM_cons, bindOk]
    constructor
    · rintro ⟨y, head, rest⟩
      obtain ⟨zs, tail, last⟩ := bindOk.mp rest
      cases pureOk.mp last
      exact .cons head (ih.mp tail)
    · intro related
      cases related with
      | cons head tail => exact ⟨_, head, bindOk.mpr ⟨_, ih.mpr tail, rfl⟩⟩

theorem mapEach {f : α → Except Fault β} {g : α → β} {xs : List α} (each : ∀ x ∈ xs, f x = .ok (g x)) :
    xs.mapM f = .ok (xs.map g) := by
  rw [mapOk, List.forall₂_map_right_iff, List.forall₂_same]
  exact each

theorem mapSome {f : α → Except Fault β} {xs : List α} (each : ∀ x ∈ xs, ∃ y, f x = .ok y) :
    ∃ ys, xs.mapM f = .ok ys := by
  induction xs with
  | nil => exact ⟨[], rfl⟩
  | cons x xs ih =>
    obtain ⟨y, head⟩ := each x List.mem_cons_self
    obtain ⟨ys, tail⟩ := ih fun z member => each z (List.mem_cons_of_mem x member)
    refine ⟨y :: ys, ?_⟩
    rw [List.mapM_cons, head, tail]
    rfl

theorem mapMembers {f : α → Except Fault β} {xs : List α} {ys : List β} (made : xs.mapM f = .ok ys) (y : β) :
    y ∈ ys ↔ ∃ x ∈ xs, f x = .ok y := by
  rw [mapOk] at made
  induction made with
  | nil => simp
  | cons head tail ih => simp [head, ih, eq_comm]

theorem mapEvery {f : α → Except Fault β} {xs : List α} {ys : List β} (made : xs.mapM f = .ok ys) {x : α}
    (member : x ∈ xs) : ∃ y, f x = .ok y := by
  rw [mapOk] at made
  induction made with
  | nil => cases member
  | cons head tail ih =>
    rcases List.mem_cons.mp member with rfl | inside
    · exact ⟨_, head⟩
    · exact ih inside

theorem mapFailed {f : α → Except Fault β} {xs : List α} {e : Fault} (failed : xs.mapM f = .error e) :
    ∃ x ∈ xs, f x = .error e := by
  induction xs with
  | nil => cases failed
  | cons x xs ih =>
    rw [List.mapM_cons, bindError] at failed
    rcases failed with head | ⟨y, _, rest⟩
    · exact ⟨x, List.mem_cons_self, head⟩
    · rcases bindError.mp rest with tail | ⟨ys, _, last⟩
      · obtain ⟨z, member, here⟩ := ih tail
        exact ⟨z, List.mem_cons_of_mem x member, here⟩
      · cases last

theorem mapRefused {f : α → Except Fault β} {xs : List α} {e : Fault}
    (each : ∀ x ∈ xs, (∃ y, f x = .ok y) ∨ f x = .error e) (one : ∃ x ∈ xs, f x = .error e) :
    xs.mapM f = .error e := by
  induction xs with
  | nil =>
    obtain ⟨x, member, _⟩ := one
    cases member
  | cons x xs ih =>
    rw [List.mapM_cons]
    rcases each x List.mem_cons_self with ⟨y, head⟩ | head
    · have rest : ∃ z ∈ xs, f z = .error e := by
        obtain ⟨z, member, failed⟩ := one
        rcases List.mem_cons.mp member with rfl | inside
        · rw [head] at failed
          cases failed
        · exact ⟨z, inside, failed⟩
      rw [head, ih (fun z member => each z (List.mem_cons_of_mem x member)) rest]
      rfl
    · rw [head]
      rfl

theorem relatedMap {f : α → β} {xs : List α} {ys : List β}
    (related : List.Forall₂ (fun x y => y = f x) xs ys) : ys = xs.map f := by
  induction related with
  | nil => rfl
  | cons head tail ih => rw [head, ih, List.map_cons]

theorem relatedImages {γ : Type} {R : β → γ → Prop} {f : α → β} {g : α → γ} {xs : List α}
    (each : ∀ x ∈ xs, R (f x) (g x)) : List.Forall₂ R (xs.map f) (xs.map g) := by
  rw [List.forall₂_map_left_iff, List.forall₂_map_right_iff, List.forall₂_same]
  exact each

end TypoSearch.Outcome
