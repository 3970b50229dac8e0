import TypoSearch.Yaml.Scalar
import TypoSearch.Yaml.Token

/-! Tokens from text. A key without a mark of its own is known only by the colon behind it, so the
lexer remembers where the last possible key began and puts the key token there. -/
namespace TypoSearch.Yaml

structure KeyStart where
  position : Nat
  required : Bool
  index : Nat
  line : Nat
  column : Nat
  deriving Repr

def keyReach : Nat := 1024

structure Lexer where
  cursor : Cursor
  tokens : Array Token := #[]
  brackets : List (Option KeyStart) := []
  blockKey : Option KeyStart := none
  indent : Int := -1
  indents : List Int := []
  keyAllowed : Bool := true

namespace Lexer

def inFlow (x : Lexer) : Bool := !x.brackets.isEmpty

def emit (x : Lexer) (t : Token) : Lexer := { x with tokens := x.tokens.push t }

def advance (x : Lexer) (n : Nat) : Lexer := { x with cursor := x.cursor.forward n }

def allow (x : Lexer) (allowed : Bool) : Lexer := { x with keyAllowed := allowed }

def keyStart? (x : Lexer) : Option KeyStart :=
  match x.brackets with
  | k :: _ => k
  | [] => x.blockKey

def setKeyStart (x : Lexer) (k : Option KeyStart) : Lexer :=
  match x.brackets with
  | _ :: ks => { x with brackets := k :: ks }
  | [] => { x with blockKey := k }

def dropKey? (x : Lexer) : Option Lexer :=
  match x.keyStart? with
  | some k => if k.required then none else some (x.setKeyStart none)
  | none => some x

def saveKey? (x : Lexer) : Option Lexer :=
  if x.keyAllowed then do
    let x ← x.dropKey?
    let c := x.cursor
    let required := !x.inFlow && x.indent == c.column
    return x.setKeyStart (some ⟨x.tokens.size, required, c.index, c.line, c.column⟩)
  else some x

def isStale (c : Cursor) (k : KeyStart) : Bool := k.line != c.line || keyReach < c.index - k.index

def freshKey? (c : Cursor) (k : Option KeyStart) : Option (Option KeyStart) :=
  match k with
  | some k => if isStale c k then (if k.required then none else some none) else some (some k)
  | none => some none

def dropStale? (x : Lexer) : Option Lexer := do
  let blockKey ← freshKey? x.cursor x.blockKey
  let brackets ← x.brackets.mapM (freshKey? x.cursor)
  return { x with blockKey, brackets }

def unwindTo (column : Int) : List Int → Lexer → Lexer
  | [], x => x
  | outer :: indents, x =>
    if column < x.indent then
      unwindTo column indents { x.emit .blockEnd with indent := outer, indents := indents }
    else x

def unwind (x : Lexer) (column : Int) : Lexer :=
  if x.inFlow then x else unwindTo column x.indents x

def openBlock (x : Lexer) (column : Int) (t : Token) (at_ : Nat) : Lexer :=
  if x.indent < column then
    { x with indent := column, indents := x.indent :: x.indents, tokens := x.tokens.insertIdx! at_ t }
  else x

def blankLines : (fuel : Nat) → Lexer → Lexer
  | 0, x => x
  | fuel + 1, x =>
    let c := x.cursor.skip (· = ' ')
    let c := if c.peek? = some '#' then c.skip fun d => !isBreak d else c
    match c.lineBreak? with
    | some (_, c) => blankLines fuel { x with cursor := c, keyAllowed := x.keyAllowed || !x.inFlow }
    | none => { x with cursor := c }

def skipToToken (x : Lexer) : Lexer :=
  let x := if x.cursor.index = 0 && x.cursor.peek? = some byteOrderMark then x.advance 1 else x
  blankLines (x.cursor.rest.length + 1) x

def isNameChar (c : Char) : Bool := c.isAlphanum || c = '-' || c = '_'

/-! ## Directives -/

def number? (c : Cursor) : Option (Nat × Cursor) :=
  let (ds, c) := c.span Char.isDigit
  if ds.isEmpty then none else some (Number.ofDigits (ds.filterMap Number.plainDigitOf?), c)

def versionLine? (c : Cursor) : Option (Token × Cursor) := do
  let (major, c) ← number? (c.skip (· = ' '))
  if c.peek? ≠ some '.' then none else
  let (_, c) ← number? c.step
  if c.endOr 0 fun d => d = ' ' || isBreak d then return (.version major, c) else none

def isAddressChar (c : Char) : Bool := c.isAlphanum || "-;/?:@&=+$,_.!~*'()[]".toList.contains c

def addressByte? (c : Cursor) : Option (Nat × Cursor) :=
  if c.peek? = some '%' then (Quoted.hexNumber? 2 c.step.rest).map (·, c.forward 3) else none

def addressBytes : (fuel : Nat) → Cursor → Option (List Nat × Cursor)
  | 0, c => some ([], c)
  | fuel + 1, c =>
    if c.peek? = some '%' then do
      let (b, c) ← addressByte? c
      let (bs, c) ← addressBytes fuel c
      return (b :: bs, c)
    else some ([], c)

def ofBytes? (bs : List Nat) : Option (List Char) :=
  (String.fromUTF8? (ByteArray.mk (bs.map Nat.toUInt8).toArray)).map String.toList

def address? : (fuel : Nat) → Cursor → Read
  | 0, c => some ([], c)
  | fuel + 1, c =>
    if c.peek? = some '%' then do
      let (bs, c) ← addressBytes (c.rest.length + 1) c
      let cs ← ofBytes? bs
      let (ds, c) ← address? fuel c
      return (cs ++ ds, c)
    else match c.peek? with
    | some d => if isAddressChar d then do
        let (ds, c) ← address? fuel c.step
        return (d :: ds, c)
      else some ([], c)
    | none => some ([], c)

def nonemptyAddress? (c : Cursor) : Option (String × Cursor) := do
  let (cs, c) ← address? (c.rest.length + 1) c
  if cs.isEmpty then none else return (String.ofList cs, c)

def handle? (c : Cursor) : Option (String × Cursor) :=
  if c.peek? ≠ some '!' then none
  else if c.peekAt? 1 = some ' ' then some ("!", c.step)
  else
    let (cs, after) := c.step.span isNameChar
    if after.peek? = some '!' then some (String.ofList ('!' :: cs ++ ['!']), after.step) else none

def tagLine? (c : Cursor) : Option (Token × Cursor) := do
  let (handle, c) ← handle? (c.skip (· = ' '))
  if c.peek? ≠ some ' ' then none else
  let (target, c) ← nonemptyAddress? (c.skip (· = ' '))
  if c.endOr 0 fun d => d = ' ' || isBreak d then return (.tagDirective handle target, c) else none

def directive? (c : Cursor) : Option (Token × Cursor) := do
  let (name, c) := c.step.span isNameChar
  if name.isEmpty || !c.endOr 0 (fun d => d = ' ' || isBreak d) then none else
  let (t, c) ← if name = "YAML".toList then versionLine? c
    else if name = "TAG".toList then tagLine? c
    else some (.otherDirective, c.skip fun d => !isBreak d)
  return (t, ← Block.headerEnd? c)

/-! ## Names and tags -/

def name? (c : Cursor) : Option (String × Cursor) :=
  let (cs, c) := c.step.span isNameChar
  if cs.isEmpty then none
  else if c.endOr 0 fun d => isBlank d || isBreak d || "?:,]\x7d%@`".toList.contains d then
    some (String.ofList cs, c)
  else none

def hasHandle (c : Cursor) : Bool :=
  ((c.step.rest.takeWhile fun d => !(d = ' ' || isBreak d)).contains '!')

def tag? (c : Cursor) : Option (Token × Cursor) := do
  let (t, c) ←
    if c.peekAt? 1 = some '<' then do
      let (name, c) ← nonemptyAddress? (c.forward 2)
      if c.peek? = some '>' then some (Token.tag none name, c.step) else none
    else if c.endOr 1 fun d => isBlank d || isBreak d then some (Token.tag none "!", c.step)
    else do
      let (handle, c) ← if hasHandle c then handle? c else some ("!", c.step)
      let (name, c) ← nonemptyAddress? c
      some (Token.tag (some handle) name, c)
  if c.endOr 0 fun d => d = ' ' || isBreak d then return (t, c) else none

/-! ## One token -/

def finish? (x : Lexer) : Option Lexer := (x.unwind (-1)).dropKey?

def documentMark? (x : Lexer) (t : Token) : Option Lexer := do
  let x ← (x.unwind (-1)).dropKey?
  return ((x.allow false).emit t).advance 3

def openBracket? (x : Lexer) (t : Token) : Option Lexer := do
  let x ← x.saveKey?
  return ({ x with brackets := none :: x.brackets, keyAllowed := true }.emit t).advance 1

def closeBracket? (x : Lexer) (t : Token) : Option Lexer := do
  let x ← x.dropKey?
  match x.brackets with
  | _ :: brackets => return ({ x with brackets := brackets, keyAllowed := false }.emit t).advance 1
  | [] => none

def separator? (x : Lexer) : Option Lexer := do
  let x ← (x.allow true).dropKey?
  return (x.emit .separator).advance 1

def blockEntry? (x : Lexer) : Option Lexer := do
  if !x.inFlow && !x.keyAllowed then none else
  let x := if x.inFlow then x else x.openBlock x.cursor.column .blockSequenceStart x.tokens.size
  let x ← (x.allow true).dropKey?
  return (x.emit .entry).advance 1

def markedKey? (x : Lexer) : Option Lexer := do
  if !x.inFlow && !x.keyAllowed then none else
  let x := if x.inFlow then x else x.openBlock x.cursor.column .blockMappingStart x.tokens.size
  let x ← (x.allow !x.inFlow).dropKey?
  return (x.emit .key).advance 1

def valueMark? (x : Lexer) : Option Lexer :=
  match x.keyStart? with
  | some k =>
    let x := x.setKeyStart none
    let x := { x with tokens := x.tokens.insertIdx! k.position .key }
    let x := if x.inFlow then x else x.openBlock k.column .blockMappingStart k.position
    some (((x.allow false).emit .value).advance 1)
  | none => do
    if !x.inFlow && !x.keyAllowed then none else
    let x := if x.inFlow then x else x.openBlock x.cursor.column .blockMappingStart x.tokens.size
    let x ← (x.allow !x.inFlow).dropKey?
    return (x.emit .value).advance 1

def named? (x : Lexer) (make : String → Token) : Option Lexer := do
  let x ← x.saveKey?
  let (name, c) ← name? x.cursor
  return { (x.allow false).emit (make name) with cursor := c }

def tagged? (x : Lexer) : Option Lexer := do
  let x ← x.saveKey?
  let (t, c) ← tag? x.cursor
  return { (x.allow false).emit t with cursor := c }

def blockScalar? (x : Lexer) (foldLines : Bool) : Option Lexer := do
  let x ← (x.allow true).dropKey?
  let (cs, c) ← Block.text? foldLines x.indent x.cursor.step
  return { x.emit (.scalar (String.ofList cs) false) with cursor := c }

def quotedScalar? (x : Lexer) (double : Bool) : Option Lexer := do
  let x ← x.saveKey?
  let (cs, code, c) ← Quoted.text? double (x.cursor.rest.length + 1) x.cursor.step
  let t := match code with
    | some code => Token.beyond code
    | none => .scalar (String.ofList cs) false
  return { (x.allow false).emit t with cursor := c }

def plainScalar? (x : Lexer) : Option Lexer := do
  let x ← x.saveKey?
  let (cs, broken, c) := Plain.text x.inFlow (x.indent + 1).toNat (x.cursor.rest.length + 1) x.cursor
  return { (x.allow broken).emit (.scalar (String.ofList cs) true) with cursor := c }

def isGap (c : Char) : Bool := isBlank c || isBreak c

def startsPlain (x : Lexer) (d : Char) : Bool :=
  !(isGap d || "-?:,[]\x7b\x7d#&*!|>'\"%@`".toList.contains d) ||
  (!x.cursor.endOr 1 isGap && (d = '-' || (!x.inFlow && (d = '?' || d = ':'))))

def fetch? (x : Lexer) (d : Char) : Option Lexer :=
  let c := x.cursor
  if d = '%' && c.column == 0 then do
    let x ← (x.unwind (-1)).dropKey?
    let (t, c) ← directive? c
    return { (x.allow false).emit t with cursor := c }
  else if c.column == 0 && c.atDocumentMark then
    x.documentMark? (if d = '-' then .documentStart else .documentEnd)
  else if d = '[' then x.openBracket? .sequenceStart
  else if d = '\x7b' then x.openBracket? .mappingStart
  else if d = ']' then x.closeBracket? .sequenceEnd
  else if d = '\x7d' then x.closeBracket? .mappingEnd
  else if d = ',' then x.separator?
  else if d = '-' && c.endOr 1 isGap then x.blockEntry?
  else if d = '?' && (x.inFlow || c.endOr 1 isGap) then x.markedKey?
  else if d = ':' && (x.inFlow || c.endOr 1 isGap) then x.valueMark?
  else if d = '*' then x.named? .alias
  else if d = '&' then x.named? .anchor
  else if d = '!' then x.tagged?
  else if d = '|' && !x.inFlow then x.blockScalar? false
  else if d = '>' && !x.inFlow then x.blockScalar? true
  else if d = '\'' then x.quotedScalar? false
  else if d = '"' then x.quotedScalar? true
  else if x.startsPlain d then x.plainScalar?
  else none

def isBroken (x : Lexer) : Bool :=
  match x.tokens.back? with
  | some (.beyond _) => true
  | _ => false

/-- Every round takes a character, so the document bounds the rounds. -/
def run : (fuel : Nat) → Lexer → Option (Array Token)
  | 0, _ => none
  | fuel + 1, x => do
    let x ← x.skipToToken.dropStale?
    let x := x.unwind x.cursor.column
    match x.cursor.peek? with
    | none => (x.finish?).map (·.tokens)
    | some d =>
      let x ← x.fetch? d
      if x.isBroken then some x.tokens else run fuel x

end Lexer

def tokens? (s : String) : Option (List Token) :=
  let cs := s.toList
  if cs.all isAllowed then
    ((({ cursor := .start cs } : Lexer).run (cs.length + 1))).map Array.toList
  else none

end TypoSearch.Yaml
