/-! A place in a settings document: what is left, and the line and column reached. -/
namespace TypoSearch.Yaml

def isBreak (c : Char) : Bool :=
  c = '\n' || c = '\r' || c = '\u0085' || c = '\u2028' || c = '\u2029'

def isBlank (c : Char) : Bool := c = ' ' || c = '\t'

def isAllowed (c : Char) : Bool :=
  let n := c.toNat
  n == 0x09 || n == 0x0A || n == 0x0D || (0x20 ≤ n && n ≤ 0x7E) || n == 0x85 ||
  (0xA0 ≤ n && n ≤ 0xFFFD) || 0x10000 ≤ n

def byteOrderMark : Char := '\uFEFF'

structure Cursor where
  rest : List Char
  index : Nat
  line : Nat
  column : Nat
  deriving Repr

namespace Cursor

def start (cs : List Char) : Cursor := ⟨cs, 0, 0, 0⟩

def peek? (c : Cursor) : Option Char := c.rest.head?

def peekAt? (c : Cursor) (n : Nat) : Option Char := c.rest[n]?

def atEnd (c : Cursor) : Bool := c.rest.isEmpty

def endOr (c : Cursor) (n : Nat) (p : Char → Bool) : Bool :=
  match c.peekAt? n with
  | some d => p d
  | none => true

def isNext (c : Cursor) (p : Char → Bool) : Bool := c.rest.head?.any p

def step (c : Cursor) : Cursor :=
  match c.rest with
  | [] => c
  | d :: ds =>
    if isBreak d && !(d = '\r' && ds.head? = some '\n') then ⟨ds, c.index + 1, c.line + 1, 0⟩
    else if d = byteOrderMark then ⟨ds, c.index + 1, c.line, c.column⟩
    else ⟨ds, c.index + 1, c.line, c.column + 1⟩

def forward : Nat → Cursor → Cursor
  | 0, c => c
  | n + 1, c => forward n c.step

def span (c : Cursor) (p : Char → Bool) : List Char × Cursor :=
  let taken := c.rest.takeWhile p
  (taken, c.forward taken.length)

def skip (c : Cursor) (p : Char → Bool) : Cursor := (c.span p).2

def startsWith (c : Cursor) (s : String) : Bool := s.toList.isPrefixOf c.rest

def atDocumentMark (c : Cursor) : Bool :=
  (c.startsWith "---" || c.startsWith "...") && c.endOr 3 fun d => isBlank d || isBreak d

def lineBreak? (c : Cursor) : Option (Char × Cursor) :=
  match c.rest with
  | '\r' :: '\n' :: _ => some ('\n', c.forward 2)
  | d :: _ =>
    if d = '\u2028' || d = '\u2029' then some (d, c.step)
    else if isBreak d then some ('\n', c.step) else none
  | [] => none

end Cursor
end TypoSearch.Yaml
