import TypoSearch.Fault

/-! The two ways of joining answers. Asking stops at the first answer that decides the whole, and the
empty sequence has the neutral answer. -/
namespace TypoSearch

inductive Logic where
  | and
  | or
  deriving DecidableEq, Repr

namespace Logic

def word : Logic → String
  | and => "AND"
  | or => "OR"

def ofWord? (s : String) : Option Logic := if s = "AND" then some and else if s = "OR" then some or else none

def neutral : Logic → Bool
  | and => true
  | or => false

def decide {m : Type → Type} [Monad m] {α : Type} (l : Logic) (ask : α → m Bool) : List α → m Bool
  | [] => pure l.neutral
  | x :: xs => do
    let answer ← ask x
    if answer = l.neutral then decide l ask xs else pure answer

def join (l : Logic) (answers : List Bool) : Bool :=
  match l with
  | and => answers.all id
  | or => answers.any id

def ofValue (argument : String) (given : Value) : Except Fault Logic :=
  match given with
  | .text s => match ofWord? s with
    | some l => .ok l
    | none => Fault.raise (.logic argument given)
  | _ => Fault.raise (.logic argument given)

def ofWordValue (given : Value) : Except Fault Logic :=
  match given with
  | .text s => match ofWord? s with
    | some l => .ok l
    | none => Fault.raise (.logicWord given)
  | _ => Fault.raise (.logicWord given)

theorem wordRead (l : Logic) : ofWord? l.word = some l := by cases l <;> rfl

end Logic
end TypoSearch
