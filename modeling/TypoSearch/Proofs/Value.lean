import TypoSearch.Value
import TypoSearch.Proofs.Number.Rounding
import Mathlib.Data.List.Induction

/-! Entries as a finite map. Keys that are one key form a class, as long as doubles are within their range,
so what is found under a key after an entry is put depends on that entry and on nothing else. -/
namespace TypoSearch
open Number (Binary64)

namespace Number.Binary64

def InRange : Binary64 → Prop
  | finite _ u => u < limit
  | _ => True

theorem rankSigned (s : Bool) (u : Nat) : (finite s u).rank? = some (if s then -(u : Int) else u) := by
  cases s <;> rfl

theorem rankNone {x : Binary64} : x.rank? = none ↔ x = nan := by
  rcases x with _ | s | ⟨s, u⟩
  · simp [rank?]
  · cases s <;> simp [rank?]
  · simp [rankSigned]

theorem sameRank {x y : Binary64} : x.same y = true ↔ x.rank? = y.rank? ∧ x ≠ nan := by
  rw [Ne, ← rankNone, same]
  generalize x.rank? = a
  generalize y.rank? = b
  cases a <;> cases b <;> simp

theorem rankApart {s t : Bool} {u : Nat} (inRange : u < limit) : (infinite s).rank? ≠ (finite t u).rank? := by
  cases s <;> cases t <;> simp [rank?] <;> omega

theorem rankEqual {x y : Binary64} (first : x.InRange) (second : y.InRange) (equal : x.rank? = y.rank?) :
    x = y ∨ ∃ s t, x = finite s 0 ∧ y = finite t 0 := by
  have positive := Nat.lt_trans unitPositive unitBelowLimit
  rcases x with _ | s | ⟨s, u⟩ <;> rcases y with _ | t | ⟨t, v⟩
  case finite.finite =>
    cases s <;> cases t <;> simp [rank?] at equal ⊢ <;> omega
  case infinite.infinite =>
    cases s <;> cases t <;> simp [rank?] at equal ⊢ <;> omega
  case infinite.finite => exact absurd equal (rankApart second)
  case finite.infinite => exact absurd equal.symm (rankApart first)
  case nan.nan => exact .inl rfl
  case nan.infinite | nan.finite => exact .inl (rankNone.mp equal.symm).symm
  case infinite.nan | finite.nan => exact .inl (rankNone.mp equal)

theorem toIntFinite {s : Bool} {u : Nat} {i : Int} :
    (finite s u).toInt? = some i ↔ (finite s u).rank? = some (i * unit) := by
  have positive : (unit : Int) ≠ 0 := by exact_mod_cast (Nat.ne_of_gt unitPositive)
  have cut : ∀ j : Int, (u : Int) = j * unit ↔ u % unit = 0 ∧ ((u / unit : Nat) : Int) = j := by
    intro j
    constructor
    · intro multiple
      have rest : (u : Int) % unit = 0 := by rw [multiple, Int.mul_emod_left]
      have times : (u : Int) / unit = j := by rw [multiple, Int.mul_ediv_cancel _ positive]
      exact ⟨by exact_mod_cast rest, by exact_mod_cast times⟩
    · rintro ⟨rest, rfl⟩
      exact_mod_cast (Nat.div_mul_cancel (Nat.dvd_of_mod_eq_zero rest)).symm
  have signed : (if s then -(u : Int) else u) = i * unit ↔
      u % unit = 0 ∧ (if s then -((u / unit : Nat) : Int) else (u / unit : Nat)) = i := by
    cases s
    · exact cut i
    · have opposite := cut (-i)
      rw [Int.neg_mul] at opposite
      simp only [if_true]
      omega
  rw [rankSigned, Option.some.injEq, signed, toInt?]
  split <;> simp_all

theorem wholeFinite {x : Binary64} {i : Int} (whole : x.toInt? = some i) : x.rank? = some (i * unit) := by
  rcases x with _ | s | ⟨s, u⟩
  · simp [toInt?] at whole
  · simp [toInt?] at whole
  · exact toIntFinite.mp whole

theorem rankWhole {x y : Binary64} (first : x.InRange) (second : y.InRange) :
    x.rank? = y.rank? ↔ x.toInt? = y.toInt? ∧ (x.toInt? = none → x = y) := by
  constructor
  · intro equal
    rcases rankEqual first second equal with rfl | ⟨s, t, rfl, rfl⟩
    · exact ⟨rfl, fun _ => rfl⟩
    · simp [toInt?]
  · rintro ⟨ends, apart⟩
    cases whole : x.toInt? with
    | none => rw [apart whole]
    | some i => rw [wholeFinite whole, wholeFinite (ends ▸ whole)]

end Number.Binary64

/-! ## Keys -/

namespace Key
open Number.Binary64 (sameRank rankNone rankWhole)

def InRange : Key → Prop
  | float x => x.InRange
  | _ => True

def canonical : Key → Key ⊕ Int
  | moment s => (Calendar.instant? s).elim (.inl (moment s)) .inr
  | k => .inl (k.number?.elim k .int)

theorem sameFloat {x y : Binary64} : (float x).same (float y) = true ↔ x.rank? = y.rank? := by
  have unranked : Binary64.nan.rank? = none := rfl
  rcases x with _ | s | ⟨s, u⟩ <;> rcases y with _ | t | ⟨t, v⟩ <;> simp [same, sameRank, unranked]
  all_goals exact fun nowhere => nomatch rankNone.mp nowhere.symm

theorem sameCanonical {k l : Key} (first : k.InRange) (second : l.InRange) :
    k.same l = true ↔ k.canonical = l.canonical := by
  cases k <;> cases l
  case float.float x y =>
    rw [sameFloat, rankWhole first second]
    simp only [canonical, number?]
    cases x.toInt? <;> cases y.toInt? <;> simp
  case moment.moment s t =>
    simp only [same, canonical]
    cases Calendar.instant? s <;> cases Calendar.instant? t <;> simp
  case float.moment x s | moment.float s x =>
    simp only [same, canonical, number?]
    cases x.toInt? <;> cases Calendar.instant? s <;> simp
  case float.null x | float.bool x _ | float.int x _ | float.text x _ =>
    simp only [same, canonical, number?]
    cases x.toInt? <;> simp
  case null.float x | bool.float x | int.float x | text.float x =>
    simp only [same, canonical, number?]
    cases x.toInt? <;> simp
  case moment.null s | moment.bool s _ | moment.int s _ | moment.text s _ =>
    simp only [same, canonical, number?]
    cases Calendar.instant? s <;> simp
  case null.moment s | bool.moment s | int.moment s | text.moment s =>
    simp only [same, canonical, number?]
    cases Calendar.instant? s <;> simp
  all_goals simp [same, canonical, number?]

theorem sameSelf {k : Key} (inRange : k.InRange) : k.same k = true :=
  (sameCanonical inRange inRange).mpr rfl

theorem sameDecided {k l : Key} (first : k.InRange) (second : l.InRange) :
    k.same l = decide (k.canonical = l.canonical) := by
  rw [Bool.eq_iff_iff, sameCanonical first second, decide_eq_true_iff]

structure Distinct (ks : List Key) : Prop where
  inRange : ∀ k ∈ ks, k.InRange
  apart : ks.Pairwise fun k l => k.same l = false

theorem distinctIff {ks : List Key} :
    Distinct ks ↔ (∀ k ∈ ks, k.InRange) ∧ ks.Pairwise fun k l => k.same l = false :=
  ⟨fun distinct => ⟨distinct.inRange, distinct.apart⟩, fun ⟨inRange, apart⟩ => ⟨inRange, apart⟩⟩

theorem Distinct.tail {k : Key} {ks : List Key} (distinct : Distinct (k :: ks)) : Distinct ks :=
  ⟨fun l member => distinct.inRange l (.tail _ member), (List.pairwise_cons.mp distinct.apart).2⟩

theorem Distinct.snoc {k : Key} {ks : List Key} (distinct : Distinct ks) (inRange : k.InRange)
    (fresh : ∀ l ∈ ks, l.same k = false) : Distinct (ks ++ [k]) := by
  constructor
  · intro l member
    rcases List.mem_append.mp member with old | new
    · exact distinct.inRange l old
    · exact List.mem_singleton.mp new ▸ inRange
  · refine List.pairwise_append.mpr ⟨distinct.apart, List.pairwise_singleton .., ?_⟩
    intro l member m last
    exact List.mem_singleton.mp last ▸ fresh l member

theorem distinctTexts {names : List String} (distinct : names.Nodup) : Distinct (names.map .text) := by
  constructor
  · simp [InRange]
  · rw [List.pairwise_map]
    exact distinct.imp fun other => by simpa [same] using other

end Key

/-! ## Entries -/

namespace Entries
open Key (sameSelf sameDecided)

variable {α : Type} {es fs : Entries α} {k l : Key} {v : α}

def keys (es : Entries α) : List Key := es.map (·.1)

@[simp] theorem getNil : get? ([] : Entries α) k = none := rfl

@[simp] theorem getCons {e : Key × α} : get? (e :: es) k = if e.1.same k then some e.2 else get? es k := by
  simp only [get?, List.find?_cons]
  cases e.1.same k <;> rfl

theorem getNone : es.get? k = none ↔ ∀ l ∈ es.keys, l.same k = false := by
  induction es with
  | nil => simp [keys]
  | cons e es ih =>
    simp only [getCons, keys, List.map_cons, List.forall_mem_cons] at ih ⊢
    rw [← ih]
    cases e.1.same k <;> simp

theorem getKey (inRange : k.InRange) (member : k ∈ es.keys) : ∃ v, es.get? k = some v := by
  cases found : es.get? k with
  | some v => exact ⟨v, rfl⟩
  | none =>
    have other := getNone.mp found k member
    simp [sameSelf inRange] at other

theorem getMember (found : es.get? k = some v) : ∃ e ∈ es, e.2 = v := by
  induction es with
  | nil => simp at found
  | cons e es ih =>
    rw [getCons] at found
    split at found
    · exact ⟨e, .head _, Option.some.inj found⟩
    · obtain ⟨f, member, value⟩ := ih found
      exact ⟨f, .tail _ member, value⟩

theorem putGet (held : ∀ m ∈ es.keys, m.InRange) (first : k.InRange) (second : l.InRange) :
    (es.put k v).get? l = if k.same l then some v else es.get? l := by
  induction es with
  | nil => simp [put]
  | cons e es ih =>
    have head : e.1.InRange := held e.1 (.head _)
    have rest := ih fun m member => held m (.tail _ member)
    rw [put]
    rw [sameDecided head first, sameDecided first second]
    rw [sameDecided first second] at rest
    by_cases here : e.1.canonical = k.canonical
    · simp only [here, decide_true, if_true, getCons, sameDecided head second]
      split <;> rfl
    · simp only [here, decide_false, Bool.false_eq_true, if_false, getCons, rest, sameDecided head second]
      split <;> split <;> simp_all

theorem getSame (held : ∀ m ∈ es.keys, m.InRange) (first : k.InRange) (second : l.InRange)
    (same : k.same l = true) : es.get? k = es.get? l := by
  have equal := (Key.sameCanonical first second).mp same
  induction es with
  | nil => rfl
  | cons e es ih =>
    have head : e.1.InRange := held e.1 (.head _)
    rw [getCons, getCons, sameDecided head first, sameDecided head second, equal,
      ih fun m member => held m (.tail _ member)]

theorem getTail {e : Key × α} (distinct : Key.Distinct (keys (e :: es))) (inRange : k.InRange)
    (here : e.1.same k = true) : es.get? k = none := by
  rw [getNone]
  intro l member
  have head : e.1.InRange := distinct.inRange e.1 (.head _)
  have other : e.1.same l = false := (List.pairwise_cons.mp distinct.apart).1 l member
  rw [sameDecided head (distinct.tail.inRange l member), (Key.sameCanonical head inRange).mp here] at other
  rw [sameDecided (distinct.tail.inRange l member) inRange]
  simpa [eq_comm] using other

theorem getOwn {e : Key × α} (distinct : Key.Distinct es.keys) (member : e ∈ es) : es.get? e.1 = some e.2 := by
  induction es with
  | nil => simp at member
  | cons f es ih =>
    rw [getCons]
    rcases List.mem_cons.mp member with rfl | later
    · rw [if_pos (sameSelf (distinct.inRange e.1 (.head _)))]
    · have other : f.1.same e.1 = false :=
        (List.pairwise_cons.mp distinct.apart).1 e.1 (List.mem_map_of_mem later)
      rw [if_neg (by simp [other]), ih distinct.tail later]

theorem putKeys : (es.put k v).keys = if (es.get? k).isSome then es.keys else es.keys ++ [k] := by
  induction es with
  | nil => rfl
  | cons e es ih =>
    rw [put, getCons]
    split
    · rfl
    · simp only [keys, List.map_cons] at ih ⊢
      rw [ih]
      split <;> rfl

theorem putDistinct (distinct : Key.Distinct es.keys) (inRange : k.InRange) : Key.Distinct (es.put k v).keys := by
  rw [putKeys]
  split
  · exact distinct
  · rename_i missing
    exact distinct.snoc inRange (getNone.mp (by simpa using missing))

theorem sameEntries (distinct : Key.Distinct es.keys) (places : es.keys = fs.keys)
    (found : ∀ k ∈ es.keys, es.get? k = fs.get? k) : es = fs := by
  induction es generalizing fs with
  | nil => exact (List.map_eq_nil_iff.mp places.symm).symm
  | cons e es ih =>
    cases fs with
    | nil => simp [keys] at places
    | cons f fs =>
      obtain ⟨head, tail⟩ : e.1 = f.1 ∧ keys es = keys fs := List.cons.inj places
      have self := sameSelf (distinct.inRange e.1 (.head _))
      have value : e.2 = f.2 := by simpa [self, ← head] using found e.1 (.head _)
      have rest : es = fs := by
        refine ih distinct.tail tail fun k member => ?_
        have other : e.1.same k = false := (List.pairwise_cons.mp distinct.apart).1 k member
        simpa [other, ← head] using found k (.tail _ member)
      rw [rest, Prod.ext head value]

theorem putFresh (fresh : ∀ l ∈ es.keys, l.same k = false) : es.put k v = es ++ [(k, v)] := by
  induction es with
  | nil => rfl
  | cons e es ih =>
    rw [put, if_neg (by simp [fresh e.1 (.head _)]), ih fun l member => fresh l (.tail _ member)]
    rfl

theorem ofDistinct (distinct : Key.Distinct es.keys) : ofPairs es = es := by
  induction es using List.reverseRecOn with
  | nil => rfl
  | append_singleton es e ih =>
    rw [keys, List.map_append] at distinct
    obtain ⟨apart, _, fresh⟩ := List.pairwise_append.mp distinct.apart
    have before : ofPairs es = es := ih ⟨fun l member => distinct.inRange l (List.mem_append_left _ member), apart⟩
    have last : ofPairs (es ++ [e]) = put (ofPairs es) e.1 e.2 := List.foldl_append ..
    rw [last, before, putFresh fun l member => fresh l member e.1 (by simp)]

end Entries
end TypoSearch
