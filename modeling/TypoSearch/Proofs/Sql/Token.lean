import TypoSearch.Sql.Dialect

/-! The tokens of a text. It is read one character at a time, what has been read of an unfinished token
being the state. Inside quotes any character may stand, a doubled quote counting once; in the escaping
form of a literal the character behind a backslash has a meaning of its own. Outside quotes few
characters may stand, and a text with any other has no tokens. -/
namespace TypoSearch.Sql

inductive Token where
  | word (s : String)
  | name (s : String)
  | literal (s : String)
  | numeral (s : String)
  | atLeast
  | mark (c : Char)
  deriving DecidableEq, Repr

namespace Scan

inductive Kind where
  | name
  | literal
  deriving DecidableEq, Repr

def Kind.quote : Kind → Char
  | name => '"'
  | literal => '\''

def Kind.token (k : Kind) (read : List Char) : Token :=
  match k with
  | name => .name (String.ofList read)
  | literal => .literal (String.ofList read)

inductive Mode where
  | between
  | word (read : List Char)
  | numeral (read : List Char)
  | quoted (k : Kind) (read : List Char)
  | closing (k : Kind) (read : List Char)
  | escaping (read : List Char)
  | escaped (read : List Char)
  | closingEscaping (read : List Char)
  | greater
  deriving DecidableEq, Repr

def Mode.finish : Mode → Option (List Token)
  | between => some []
  | word read => some [.word (String.ofList read)]
  | numeral read => some [.numeral (String.ofList read)]
  | closing k read => some [k.token read]
  | closingEscaping read => some [.literal (String.ofList read)]
  | _ => none

def isSpace (c : Char) : Bool := c = ' ' || c = '\n' || c = '\t' || c = '\r' || c = '\x0c'

def isMark (c : Char) : Bool := c = '(' || c = ')' || c = ',' || c = '.' || c = '*' || c = '?'

def begin (ended : List Token) (c : Char) : Option (List Token × Mode) :=
  if isSpace c then some (ended, .between)
  else if isMark c then some (ended ++ [.mark c], .between)
  else if c = '>' then some (ended, .greater)
  else if c = '"' then some (ended, .quoted .name [])
  else if c = '\'' then some (ended, .quoted .literal [])
  else if startsName c then some (ended, .word [c])
  else if isDigit c then some (ended, .numeral [c])
  else none

def unescape (c : Char) : Option Char :=
  if c = 'b' then some '\x08'
  else if c = 'f' then some '\x0c'
  else if c = 'n' then some '\n'
  else if c = 'r' then some '\r'
  else if c = 't' then some '\t'
  else if c = 'x' || c = 'u' || c = 'U' || isDigit c then none
  else some c

def announces (q : Quoting) (read : List Char) : Bool := q = .sparing && (read = ['E'] || read = ['e'])

def step (q : Quoting) : Mode → Char → Option (List Token × Mode)
  | .between, c => begin [] c
  | .greater, c => if c = '=' then some ([.atLeast], .between) else none
  | .word read, c =>
    if continuesName c then some ([], .word (read ++ [c]))
    else if c = '\'' then (if announces q read then some ([], .escaping []) else none)
    else if c = '"' then none
    else begin [.word (String.ofList read)] c
  | .numeral read, c =>
    if isDigit c || (c = '.' && !read.contains '.') then some ([], .numeral (read ++ [c]))
    else if startsName c then none
    else begin [.numeral (String.ofList read)] c
  | .quoted k read, c =>
    if c = k.quote then some ([], .closing k read) else some ([], .quoted k (read ++ [c]))
  | .closing k read, c =>
    if c = k.quote then some ([], .quoted k (read ++ [c])) else begin [k.token read] c
  | .escaping read, c =>
    if c = '\\' then some ([], .escaped read)
    else if c = '\'' then some ([], .closingEscaping read)
    else some ([], .escaping (read ++ [c]))
  | .escaped read, c => (unescape c).map fun d => ([], .escaping (read ++ [d]))
  | .closingEscaping read, c =>
    if c = '\'' then some ([], .escaping (read ++ [c])) else begin [.literal (String.ofList read)] c

def run (q : Quoting) (m : Mode) : List Char → Option (List Token × Mode)
  | [] => some ([], m)
  | c :: cs => do
    let (ts, m) ← step q m c
    let (us, m) ← run q m cs
    return (ts ++ us, m)

end Scan

def tokens (q : Quoting) (cs : List Char) : Option (List Token) := do
  let (ts, m) ← Scan.run q .between cs
  return ts ++ (← m.finish)

namespace Scan

theorem runCons {q m c ts m'} (first : step q m c = some (ts, m')) (cs : List Char) :
    run q m (c :: cs) = (run q m' cs).map fun r => (ts ++ r.1, r.2) := by
  simp only [run, first, bind, Option.bind, pure]
  cases run q m' cs <;> rfl

theorem runAppend {q m xs ts m'} (first : run q m xs = some (ts, m')) (ys : List Char) :
    run q m (xs ++ ys) = (run q m' ys).map fun r => (ts ++ r.1, r.2) := by
  induction xs generalizing m ts with
  | nil =>
    cases Option.some.inj first
    simp
  | cons c cs ih =>
    simp only [run, bind, Option.bind_eq_some_iff] at first
    obtain ⟨⟨us, n⟩, hstep, ⟨vs, k⟩, hrest, last⟩ := first
    cases Option.some.inj last
    rw [List.cons_append, runCons hstep, ih hrest]
    simp [Function.comp_def]

theorem runSilent {q m xs m' ys r} (first : run q m xs = some ([], m')) (second : run q m' ys = some r) :
    run q m (xs ++ ys) = some r := by
  rw [runAppend first, second]
  simp

end Scan

theorem tokensRun {q cs ts} (read : tokens q cs = some ts) :
    ∃ us m vs, Scan.run q .between cs = some (us, m) ∧ m.finish = some vs ∧ ts = us ++ vs := by
  simp only [tokens, bind, Option.bind_eq_some_iff] at read
  obtain ⟨⟨us, m⟩, hrun, vs, hfinish, last⟩ := read
  exact ⟨us, m, vs, hrun, hfinish, (Option.some.inj last).symm⟩

theorem runTokens {q cs us m vs} (hrun : Scan.run q .between cs = some (us, m))
    (hfinish : m.finish = some vs) : tokens q cs = some (us ++ vs) := by
  simp [tokens, hrun, hfinish]

/-! ## Separators
A blank, a line break, a comma or a parenthesis ends whatever token stands before it and belongs to no
token that stands behind it. So a text falls into parts that are read apart. -/

def Separates (c : Char) : Prop := c = ' ' ∨ c = '\n' ∨ c = ',' ∨ c = '(' ∨ c = ')'

def separatorTokens (c : Char) : List Token := if Scan.isSpace c then [] else [.mark c]

namespace Scan

theorem beginSeparator {c : Char} (separates : Separates c) (ended : List Token) :
    begin ended c = some (ended ++ separatorTokens c, .between) := by
  rcases separates with rfl | rfl | rfl | rfl | rfl <;> simp [begin, separatorTokens, isSpace, isMark]

theorem stepSeparator {c : Char} (separates : Separates c) (q : Quoting) {m vs}
    (finished : Mode.finish m = some vs) :
    step q m c = some (vs ++ separatorTokens c, .between) := by
  have notName : continuesName c = false ∧ startsName c = false ∧ isDigit c = false := by
    rcases separates with rfl | rfl | rfl | rfl | rfl <;> decide
  have notQuote : c ≠ '"' ∧ c ≠ '\'' ∧ c ≠ '.' := by
    rcases separates with rfl | rfl | rfl | rfl | rfl <;> decide
  cases m <;> cases finished
  case between => exact beginSeparator separates []
  case word read => simp [step, notName, notQuote, beginSeparator separates]
  case numeral read => simp [step, notName, notQuote, beginSeparator separates]
  case closing k read => cases k <;> simp [step, Kind.quote, notQuote, beginSeparator separates]
  case closingEscaping read => simp [step, notQuote, beginSeparator separates]

end Scan

theorem tokensSeparated {q xs ts ys us} (first : tokens q xs = some ts) {c : Char}
    (separates : Separates c) (second : tokens q ys = some us) :
    tokens q (xs ++ c :: ys) = some (ts ++ separatorTokens c ++ us) := by
  obtain ⟨as, m, vs, hrun, hfinish, rfl⟩ := tokensRun first
  obtain ⟨bs, n, ws, hrest, hlast, rfl⟩ := tokensRun second
  have here := Scan.runCons (Scan.stepSeparator separates q hfinish) ys
  rw [hrest] at here
  have whole := Scan.runAppend hrun (c :: ys)
  rw [here] at whole
  rw [runTokens whole hlast]
  simp

theorem tokensNil (q : Quoting) : tokens q [] = some [] := rfl

end TypoSearch.Sql
