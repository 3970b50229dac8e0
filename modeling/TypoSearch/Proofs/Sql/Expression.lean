import TypoSearch.Proofs.Sql.Layout

/-! Conditions as an engine reads them. Tokens are taken one at a time; the state is what stands before
the operand that comes next. A comparison binds tighter than AND and AND tighter than OR, and operators
of one kind are joined from the left. -/
namespace TypoSearch.Sql
open Number (Binary64)

inductive Expression where
  | constant (value : Bool)
  | column (name : String)
  | literal (s : String)
  | numeral (s : String)
  | call (function : String) (first second : Expression)
  | atLeast (left right : Expression)
  | join (logic : Logic) (left right : Expression)
  deriving DecidableEq, Repr

namespace Parse

structure Level where
  compared : Option Expression
  conjoined : Option Expression
  alternative : Option Expression
  deriving DecidableEq, Repr

def apply (operation : Expression → Expression → Expression) (before : Option Expression)
    (e : Expression) : Expression :=
  match before with
  | none => e
  | some left => operation left e

namespace Level

def fresh : Level := ⟨none, none, none⟩

def comparison (l : Level) (e : Expression) : Expression := apply .atLeast l.compared e

def conjunction (l : Level) (e : Expression) : Expression := apply (.join .and) l.conjoined (l.comparison e)

def whole (l : Level) (e : Expression) : Expression := apply (.join .or) l.alternative (l.conjunction e)

end Level

inductive Frame where
  | group (outer : Level)
  | first (outer : Level) (function : String)
  | second (outer : Level) (function : String) (argument : Expression)
  deriving DecidableEq, Repr

inductive Mode where
  | operand
  | word (s : String)
  | done (e : Expression)
  deriving DecidableEq, Repr

structure State where
  frames : List Frame
  level : Level
  mode : Mode
  deriving DecidableEq, Repr

def State.start : State := ⟨[], .fresh, .operand⟩

def upper (s : String) : String := String.ofList (s.toList.map Char.toUpper)

def logic? (s : String) : Option Logic := Logic.ofWord? (upper s)

def constant? (s : String) : Option Bool :=
  if upper s = "TRUE" then some true else if upper s = "FALSE" then some false else none

def State.operand? (s : State) : Option Expression :=
  match s.mode with
  | .operand => none
  | .word w => (constant? w).map .constant
  | .done e => some e

def beginOperand (s : State) : Token → Option State
  | .mark '(' => some ⟨.group s.level :: s.frames, .fresh, .operand⟩
  | .word w => if (logic? w).isSome then none else some { s with mode := .word w }
  | .name c => some { s with mode := .done (.column c) }
  | .literal t => some { s with mode := .done (.literal t) }
  | .numeral t => some { s with mode := .done (.numeral t) }
  | _ => none

def close (l : Level) (e : Expression) : List Frame → Option State
  | .group outer :: frames => some ⟨frames, outer, .done (l.whole e)⟩
  | .second outer function argument :: frames =>
    some ⟨frames, outer, .done (.call function argument (l.whole e))⟩
  | _ => none

def followOperand (s : State) (e : Expression) : Token → Option State
  | .atLeast => some { s with level := { s.level with compared := some (s.level.comparison e) }, mode := .operand }
  | .word w => match logic? w with
    | some .and => some ⟨s.frames, ⟨none, some (s.level.conjunction e), s.level.alternative⟩, .operand⟩
    | some .or => some ⟨s.frames, ⟨none, none, some (s.level.whole e)⟩, .operand⟩
    | none => none
  | .mark ',' => match s.frames with
    | .first outer function :: frames =>
      some ⟨.second outer function (s.level.whole e) :: frames, .fresh, .operand⟩
    | _ => none
  | .mark ')' => close s.level e s.frames
  | _ => none

def step (s : State) (t : Token) : Option State :=
  match s.mode, t with
  | .operand, t => beginOperand s t
  | .word w, .mark '(' => some ⟨.first s.level w :: s.frames, .fresh, .operand⟩
  | _, t => s.operand?.bind fun e => followOperand s e t

def finish (s : State) : Option Expression :=
  if s.frames.isEmpty then s.operand?.map s.level.whole else none

end Parse

def parse (ts : List Token) : Option Expression := (ts.foldlM Parse.step .start).bind Parse.finish

namespace Predicate

mutual

def expression : Predicate → Expression
  | constant value => .constant value
  | contains column pattern => .call foldedContainment (.column column) (.literal pattern)
  | similar pattern column cutoff =>
    .atLeast (.call wordSimilarity (.literal pattern) (.column column)) (.numeral cutoff.plainText)
  | group logic members => match expressions members with
    | [] => .constant logic.neutral
    | e :: es => es.foldl (.join logic) e

def expressions : List Predicate → List Expression
  | [] => []
  | p :: ps => expression p :: expressions ps

end

theorem expressionsMap (ps : List Predicate) : expressions ps = ps.map expression := by
  induction ps with
  | nil => rw [expressions, List.map_nil]
  | cons p ps ih => rw [expressions, ih, List.map_cons]

end Predicate

namespace Parse

structure Behind (s : State) (frames : List Frame) (level : Level) (e : Expression) : Prop where
  frames : s.frames = frames
  conjoined : s.level.conjoined = level.conjoined
  alternative : s.level.alternative = level.alternative
  expression : s.operand?.map s.level.comparison = some e

def ReadAs (ts : List Token) (e : Expression) : Prop :=
  ∀ frames level, level.compared = none →
    ∃ s, ts.foldlM step ⟨frames, level, .operand⟩ = some s ∧ Behind s frames level e

def pending (l : Logic) (before : Option Expression) : Level :=
  match l with
  | .and => ⟨none, before, none⟩
  | .or => ⟨none, none, before⟩

section
variable {s : State} {frames : List Frame} {level outer : Level} {l : Logic} {e : Expression}
variable {before : Option Expression}

theorem behindOperand (behind : Behind s frames level e) :
    ∃ d, s.operand? = some d ∧ s.level.comparison d = e := by
  have same := behind.expression
  rw [Option.map_eq_some_iff] at same
  exact same

theorem stepFollows {d : Expression} (found : s.operand? = some d) {t : Token} (other : t ≠ .mark '(') :
    step s t = followOperand s d t := by
  obtain ⟨frames, level, mode⟩ := s
  cases mode with
  | operand => cases found
  | word w =>
    unfold step
    split
    · rename_i same
      cases same
    · rename_i same
      exact absurd rfl other
    · rw [found]
      rfl
  | done d =>
    unfold step
    rw [found]
    rfl

theorem logicWord (l : Logic) : logic? l.word = some l := by cases l <;> decide

theorem stepLogic (behind : Behind s frames (pending l before) e) :
    step s (.word l.word) = some ⟨frames, pending l (some (apply (.join l) before e)), .operand⟩ := by
  obtain ⟨d, found, same⟩ := behindOperand behind
  have other : Token.word l.word ≠ .mark '(' := by rintro ⟨⟩
  have conjoined := behind.conjoined
  have alternative := behind.alternative
  rw [stepFollows found other]
  cases l <;> simp only [pending] at conjoined alternative <;>
    simp [followOperand, logicWord, pending, Level.conjunction, Level.whole, behind.frames, conjoined,
      alternative, same, apply]

theorem wholePending (behind : Behind s frames (pending l before) e) :
    s.operand?.map s.level.whole = some (apply (.join l) before e) := by
  obtain ⟨d, found, same⟩ := behindOperand behind
  have conjoined := behind.conjoined
  have alternative := behind.alternative
  cases l <;> simp only [pending] at conjoined alternative <;>
    simp [found, Level.conjunction, Level.whole, conjoined, alternative, same, apply]

theorem stepGroupEnd (behind : Behind s (.group outer :: frames) (pending l before) e) :
    step s (.mark ')') = some ⟨frames, outer, .done (apply (.join l) before e)⟩ := by
  obtain ⟨d, found, _⟩ := behindOperand behind
  have other : Token.mark ')' ≠ .mark '(' := by decide
  have whole := wholePending behind
  rw [found, Option.map_some, Option.some.injEq] at whole
  rw [stepFollows found other]
  simp only [followOperand, behind.frames, close, whole]

theorem behindDone (fresh : level.compared = none) : Behind ⟨frames, level, .done e⟩ frames level e := by
  refine ⟨rfl, rfl, rfl, ?_⟩
  simp [State.operand?, Level.comparison, fresh, apply]

end

section
variable {parts : List (List Token)} {part : List Token} {e : Expression} {es : List Expression}

theorem membersRun (l : Logic) (head : ReadAs part e) (tail : List.Forall₂ ReadAs parts es)
    (frames : List Frame) (before : Option Expression) :
    ∃ s gathered last,
      ([Token.word l.word].intercalate (part :: parts)).foldlM step ⟨frames, pending l before, .operand⟩ =
        some s ∧ Behind s frames (pending l gathered) last ∧
      apply (.join l) gathered last = es.foldl (.join l) (apply (.join l) before e) := by
  have fresh : (pending l before).compared = none := by cases l <;> rfl
  obtain ⟨s, ran, behind⟩ := head frames (pending l before) fresh
  -- One word of the logic at a time: what is gathered before it waits at its level.
  induction tail generalizing part e before s with
  | nil => exact ⟨s, before, e, by simpa using ran, behind, rfl⟩
  | @cons second d parts es next rest ih =>
    have fresh : (pending l (some (apply (.join l) before e))).compared = none := by cases l <;> rfl
    obtain ⟨s', ran', behind'⟩ := next frames (pending l (some (apply (.join l) before e))) fresh
    obtain ⟨u, gathered, last, finished, end', same⟩ := ih next _ fresh s' ran' behind'
    refine ⟨u, gathered, last, ?_, end', same⟩
    rw [List.intercalate_cons_cons, List.append_assoc, List.foldlM_append, ran]
    simp only [Option.bind_eq_bind, Option.bind_some, List.singleton_append, List.foldlM_cons,
      stepLogic behind]
    exact finished

theorem joinedReadAs (l : Logic) (head : ReadAs part e) (tail : List.Forall₂ ReadAs parts es) :
    ReadAs (Layout.joined l (part :: parts)) (es.foldl (.join l) e) := by
  intro frames level fresh
  obtain ⟨s, gathered, last, ran, behind, same⟩ := membersRun l head tail (.group level :: frames) none
  have opened : step ⟨frames, level, .operand⟩ (.mark '(') =
      some ⟨.group level :: frames, pending l none, .operand⟩ := by cases l <;> rfl
  have closed := stepGroupEnd behind
  rw [same] at closed
  refine ⟨⟨frames, level, .done (es.foldl (.join l) e)⟩, ?_, behindDone fresh⟩
  simp only [Layout.joined, Layout.inParentheses, List.cons_append, List.foldlM_cons, opened,
    Option.bind_eq_bind, Option.bind_some, List.foldlM_append, ran, closed, List.foldlM_nil]
  rfl

end

theorem constantReadAs (value : Bool) :
    ReadAs [.word (Dialect.sqlite.constant value)] (.constant value) := by
  intro frames level fresh
  refine ⟨⟨frames, level, .word (Dialect.sqlite.constant value)⟩, ?_, rfl, rfl, rfl, ?_⟩
  · cases value <;> rfl
  · have found : constant? (Dialect.sqlite.constant value) = some value := by cases value <;> decide
    simp [State.operand?, found, Level.comparison, fresh, apply]

theorem containsReadAs (column pattern : String) :
    ReadAs (Layout.contains .sqlite column pattern)
      (.call foldedContainment (.column column) (.literal pattern)) := by
  intro frames level fresh
  exact ⟨_, rfl, behindDone fresh⟩

theorem similarReadAs (pattern column : String) (cutoff : Binary64) :
    ReadAs (Layout.similar .sqlite pattern column cutoff)
      (.atLeast (.call wordSimilarity (.literal pattern) (.column column)) (.numeral cutoff.plainText)) := by
  intro frames level fresh
  obtain ⟨compared, conjoined, alternative⟩ := level
  cases fresh
  exact ⟨_, rfl, rfl, rfl, rfl, rfl⟩

theorem predicateReadAs {p : Predicate} (proper : p.Proper) : ReadAs (p.layout .sqlite) p.expression := by
  induction proper with
  | @constant value =>
    rw [Predicate.layout, Predicate.expression]
    exact constantReadAs value
  | @contains column pattern =>
    rw [Predicate.layout, Predicate.expression]
    exact containsReadAs column pattern
  | @similar pattern column cutoff _ =>
    rw [Predicate.layout, Predicate.expression]
    exact similarReadAs pattern column cutoff
  | @group logic members some _ ih =>
    rw [Predicate.layout, Predicate.expression, Predicate.layoutsMap, Predicate.expressionsMap]
    cases members with
    | nil => exact absurd rfl some
    | cons p ps =>
      have tail : List.Forall₂ ReadAs (ps.map (Predicate.layout .sqlite)) (ps.map Predicate.expression) :=
        Outcome.relatedImages fun q member => ih q (List.mem_cons_of_mem p member)
      exact joinedReadAs logic (ih p List.mem_cons_self) tail

end Parse

theorem parseReadAs {ts : List Token} {e : Expression} (read : Parse.ReadAs ts e) : parse ts = some e := by
  obtain ⟨s, ran, behind⟩ := read [] .fresh rfl
  have pending : Parse.Behind s [] (Parse.pending .and none) e := behind
  have whole := Parse.wholePending pending
  simp only [parse, Parse.State.start, ran, Option.bind_some, Parse.finish, behind.frames]
  exact whole

theorem predicateParsed {p : Predicate} (proper : p.Proper) :
    ∃ ts, tokens Dialect.sqlite.quoting (p.text .sqlite).toList = some ts ∧ parse ts = some p.expression :=
  ⟨_, predicateRead (builtinLegible (by simp [Dialect.all])) proper,
    parseReadAs (Parse.predicateReadAs proper)⟩

end TypoSearch.Sql
