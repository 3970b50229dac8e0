import TypoSearch.Number.Digits
import TypoSearch.Yaml.Cursor

/-! The text of scalars: quoted, plain, and blocks that keep or fold their lines. A single line break
inside a scalar becomes a blank, further ones stay. -/
namespace TypoSearch.Yaml

abbrev Read := Option (List Char × Cursor)

def folded (first : Char) (breaks : List Char) : List Char :=
  if first ≠ '\n' then first :: breaks else if breaks.isEmpty then [' '] else breaks

namespace Quoted

def breaks? : (fuel : Nat) → Cursor → Read
  | 0, _ => none
  | fuel + 1, c =>
    if c.atDocumentMark then none
    else
      let c := c.skip isBlank
      match c.lineBreak? with
      | none => some ([], c)
      | some (b, c) => (breaks? fuel c).map fun r => (b :: r.1, r.2)

def blanks? (c : Cursor) : Read :=
  let (taken, c) := c.span isBlank
  if c.atEnd then none
  else match c.lineBreak? with
  | none => some (taken, c)
  | some (b, c) => do
    let (bs, c) ← breaks? (c.rest.length + 1) c
    return (folded b bs, c)

def escapes : List (Char × Char) :=
  [('0', '\x00'), ('a', '\x07'), ('b', '\x08'), ('t', '\t'), ('\t', '\t'), ('n', '\n'), ('v', '\x0b'),
   ('f', '\x0c'), ('r', '\r'), ('e', '\x1b'), (' ', ' '), ('"', '"'), ('\\', '\\'), ('/', '/'),
   ('N', '\u0085'), ('_', '\u00a0'), ('L', '\u2028'), ('P', '\u2029')]

def escapeWidth? (c : Char) : Option Nat :=
  if c = 'x' then some 2 else if c = 'u' then some 4 else if c = 'U' then some 8 else none

def hexValue? (c : Char) : Option Nat :=
  let n := c.toNat
  if 0x30 ≤ n && n ≤ 0x39 then some (n - 0x30)
  else if 0x41 ≤ n && n ≤ 0x46 then some (n - 0x37)
  else if 0x61 ≤ n && n ≤ 0x66 then some (n - 0x57)
  else none

def hexNumber? (width : Nat) (cs : List Char) : Option Nat :=
  if cs.length < width then none
  else (cs.take width).foldlM (fun n c => (hexValue? c).map (16 * n + ·)) 0

def escape? (c : Cursor) : Read := do
  let d ← c.peek?
  match escapes.lookup d with
  | some e => return ([e], c.step)
  | none => match escapeWidth? d with
    | some width =>
      let n ← hexNumber? width c.step.rest
      if n.isValidChar then return ([Char.ofNat n], c.step.forward width) else none
    | none =>
      let (_, c) ← c.lineBreak?
      breaks? (c.rest.length + 1) c

def lastCode : Nat := 0x10FFFF

def beyond? (c : Cursor) : Option Nat := do
  let width ← escapeWidth? (← c.peek?)
  let n ← hexNumber? width c.step.rest
  if lastCode < n then some n else none

/-- The text up to the closing quote, read behind the opening one, or up to an escape that is beyond
all characters, with its number. -/
def text? (double : Bool) : (fuel : Nat) → Cursor → Option (List Char × Option Nat × Cursor)
  | 0, _ => none
  | fuel + 1, c =>
    match c.peek? with
    | none => none
    | some d =>
      let after (read : Read) : Option (List Char × Option Nat × Cursor) := do
        let (cs, c) ← read
        let (ds, code, c) ← text? double fuel c
        return (cs ++ ds, code, c)
      if isBlank d || isBreak d then after (blanks? c)
      else if double && d = '"' then some ([], none, c.step)
      else if !double && d = '\'' then
        if c.peekAt? 1 = some '\'' then after (some (['\''], c.forward 2))
        else some ([], none, c.step)
      else if double && d = '\\' then
        match beyond? c.step with
        | some code => some ([], some code, c)
        | none => after (escape? c.step)
      else after (some ([d], c.step))

end Quoted

namespace Plain

def ends (inFlow : Bool) (c : Cursor) : Bool :=
  match c.rest with
  | [] => true
  | d :: ds =>
    isBlank d || isBreak d ||
    (d = ':' && (match ds with
      | [] => true
      | e :: _ => isBlank e || isBreak e || (inFlow && ",[]\x7b\x7d".toList.contains e))) ||
    (inFlow && ",?[]\x7b\x7d".toList.contains d)

def word (inFlow : Bool) : (fuel : Nat) → Cursor → List Char × Cursor
  | 0, c => ([], c)
  | fuel + 1, c =>
    if ends inFlow c then ([], c)
    else match c.rest with
    | [] => ([], c)
    | d :: _ =>
      let (ds, c) := word inFlow fuel c.step
      (d :: ds, c)

def breaks : (fuel : Nat) → Cursor → Option (List Char) × Cursor
  | 0, c => (some [], c)
  | fuel + 1, c =>
    if c.atDocumentMark && c.column == 0 then (none, c)
    else
      let c := c.skip (· = ' ')
      match c.lineBreak? with
      | none => (some [], c)
      | some (b, c) =>
        let (bs, c) := breaks fuel c
        (bs.map (b :: ·), c)

def gap (c : Cursor) : List Char × Bool × Cursor :=
  let (taken, c) := c.span (· = ' ')
  match c.lineBreak? with
  | none => (taken, false, c)
  | some (b, c) =>
    match breaks (c.rest.length + 1) c with
    | (some bs, c) => (folded b bs, true, c)
    | (none, c) => ([], true, c)

def text (inFlow : Bool) (indent : Nat) : (fuel : Nat) → Cursor → List Char × Bool × Cursor
  | 0, c => ([], false, c)
  | fuel + 1, c =>
    let (cs, c) := word inFlow (c.rest.length + 1) c
    let (between, broken, next) := gap c
    if between.isEmpty || next.peek? = some '#' || (!inFlow && next.column < indent) ||
        ends inFlow next then (cs, broken, next)
    else
      let (ds, brokenAfter, c) := text inFlow indent fuel next
      (cs ++ between ++ ds, brokenAfter, c)

end Plain

namespace Block

inductive Chomping where
  | strip
  | clip
  | keep
  deriving DecidableEq, Repr

def chomping? (c : Char) : Option Chomping :=
  if c = '+' then some .keep else if c = '-' then some .strip else none

def increment? (c : Char) : Option Nat :=
  if '1' ≤ c && c ≤ '9' then some (c.toNat - 0x30) else none

def header? (c : Cursor) : Option (Chomping × Option Nat × Cursor) :=
  let mark (c : Cursor) := match c.peek?.bind chomping? with
    | some m => (m, c.step)
    | none => (.clip, c)
  let digit (c : Cursor) := match c.peek?.bind increment? with
    | some n => (some n, c.step)
    | none => (none, c)
  let result := match c.peek?.bind chomping? with
    | some m => let (n, c) := digit c.step; (m, n, c)
    | none => let (n, c) := digit c
      if n.isSome then let (m, c) := mark c; (m, n, c) else (.clip, n, c)
  if result.2.2.endOr 0 fun d => d = ' ' || isBreak d then some result else none

def headerEnd? (c : Cursor) : Option Cursor :=
  let c := c.skip (· = ' ')
  let c := if c.peek? = some '#' then c.skip fun d => !isBreak d else c
  if c.atEnd then some c else c.lineBreak?.map (·.2)

def leading : (fuel : Nat) → (widest : Nat) → Cursor → List Char × Nat × Cursor
  | 0, widest, c => ([], widest, c)
  | fuel + 1, widest, c =>
    if c.peek? = some ' ' then
      let c := c.step
      leading fuel (max widest c.column) c
    else match c.lineBreak? with
    | some (b, c) =>
      let (bs, widest, c) := leading fuel widest c
      (b :: bs, widest, c)
    | none => ([], widest, c)

def indented (indent : Nat) : (fuel : Nat) → Cursor → Cursor
  | 0, c => c
  | fuel + 1, c => if c.column < indent && c.peek? = some ' ' then indented indent fuel c.step else c

def breaks (indent : Nat) : (fuel : Nat) → Cursor → List Char × Cursor
  | 0, c => ([], c)
  | fuel + 1, c =>
    let c := indented indent indent c
    match c.lineBreak? with
    | some (b, c) =>
      let (bs, c) := breaks indent fuel c
      (b :: bs, c)
    | none => ([], c)

structure Ending where
  last : List Char
  breaks : List Char

def lines (foldLines : Bool) (indent : Nat) :
    (fuel : Nat) → (before : List Char) → Cursor → List Char × Ending × Cursor
  | 0, before, c => ([], ⟨[], before⟩, c)
  | fuel + 1, before, c =>
    if !(c.column = indent && !c.atEnd) then ([], ⟨[], before⟩, c)
    else
      let startsBlank := c.isNext isBlank
      let (line, c) := c.span fun d => !isBreak d
      let (last, c) := match c.lineBreak? with
        | some (b, c) => ([b], c)
        | none => ([], c)
      let (bs, c) := breaks indent (c.rest.length + 1) c
      if c.column = indent && !c.atEnd then
        let joint :=
          if foldLines && last = ['\n'] && !startsBlank && !c.isNext isBlank then
            (if bs.isEmpty then [' '] else [])
          else last
        let (more, ending, c) := lines foldLines indent fuel bs c
        (before ++ line ++ joint ++ more, ending, c)
      else (before ++ line, ⟨last, bs⟩, c)

def text? (foldLines : Bool) (outer : Int) (c : Cursor) : Read := do
  let (chomping, increment, c) ← header? c
  let c ← headerEnd? c
  let least := (outer + 1).toNat.max 1
  let fuel := c.rest.length + 1
  let (before, indent, c) := match increment with
    | none =>
      let (bs, widest, c) := leading fuel 0 c
      (bs, least.max widest, c)
    | some n =>
      let indent := least + n - 1
      let (bs, c) := breaks indent fuel c
      (bs, indent, c)
  let (cs, ending, c) := lines foldLines indent fuel before c
  let tail := match chomping with
    | .strip => []
    | .clip => ending.last
    | .keep => ending.last ++ ending.breaks
  return (cs ++ tail, c)

end Block
end TypoSearch.Yaml
