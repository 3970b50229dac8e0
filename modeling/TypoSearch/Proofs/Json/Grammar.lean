import TypoSearch.Json.Reader
import TypoSearch.Proofs.Number.Denotation

/-! The grammar of documents in which every number is whole, each phrase with what it says. The reader takes every
document of the grammar and takes it for what it says, so no document says two things. -/
namespace TypoSearch.Json
open Number (Digit digitChars ofDigits plainDigitOf? leadingDigits digitsLeading)

def Blank (cs : List Char) : Prop := ∀ c ∈ cs, isSpace c = true

def escapes : List (Char × Char) :=
  [('"', '"'), ('\\', '\\'), ('/', '/'), ('b', '\x08'), ('f', '\x0c'), ('n', '\n'), ('r', '\r'), ('t', '\t')]

inductive Letters : List Char → List Char → Prop
  | nil : Letters [] []
  | plain {c cs s} (quote : c ≠ '"') (escape : c ≠ '\\') (visible : 0x20 ≤ c.toNat) (rest : Letters cs s) :
      Letters (c :: cs) (c :: s)
  | escaped {c d cs s} (known : (c, d) ∈ escapes) (rest : Letters cs s) : Letters ('\\' :: c :: cs) (d :: s)
  | code {a b c d n cs s} (number : hexNumber? [a, b, c, d] = some n)
      (whole : isHighSurrogate n = false ∧ isLowSurrogate n = false) (rest : Letters cs s) :
      Letters ('\\' :: 'u' :: a :: b :: c :: d :: cs) (Char.ofNat n :: s)
  | codes {a b c d e f g h n m cs s} (first : hexNumber? [a, b, c, d] = some n) (high : isHighSurrogate n = true)
      (second : hexNumber? [e, f, g, h] = some m) (low : isLowSurrogate m = true) (rest : Letters cs s) :
      Letters ('\\' :: 'u' :: a :: b :: c :: d :: '\\' :: 'u' :: e :: f :: g :: h :: cs)
        (Char.ofNat (pairedSurrogates n m) :: s)

inductive Phrase where
  | value (v : Value)
  | items (vs : List Value)
  | entries (es : List (Key × Value))

def signed (negative : Bool) (n : Nat) : Int := if negative then -(n : Int) else n

inductive Spells : Phrase → List Char → Prop
  | null : Spells (.value .null) ['n', 'u', 'l', 'l']
  | yes : Spells (.value (.bool true)) ['t', 'r', 'u', 'e']
  | no : Spells (.value (.bool false)) ['f', 'a', 'l', 's', 'e']
  | int (negative : Bool) {d : Digit} {ds : List Digit} (leading : d = 0 → ds = []) :
      Spells (.value (.int (signed negative (ofDigits (d :: ds)))))
        (Number.Numeral.signChars negative ++ digitChars (d :: ds))
  | text {cs s} (letters : Letters cs s) : Spells (.value (.text (String.ofList s))) ('"' :: (cs ++ ['"']))
  | noItems {a} (blank : Blank a) : Spells (.value (.list [])) ('[' :: (a ++ [']']))
  | list {vs cs} (items : Spells (.items vs) cs) : Spells (.value (.list vs)) ('[' :: (cs ++ [']']))
  | noEntries {a} (blank : Blank a) : Spells (.value (.dict [])) ('\x7b' :: (a ++ ['\x7d']))
  | dict {es cs} (entries : Spells (.entries es) cs) :
      Spells (.value (.dict (Entries.ofPairs es))) ('\x7b' :: (cs ++ ['\x7d']))
  | item {a v cs b} (before : Blank a) (value : Spells (.value v) cs) (after : Blank b) :
      Spells (.items [v]) (a ++ (cs ++ b))
  | items {a v cs b vs ds} (before : Blank a) (value : Spells (.value v) cs) (after : Blank b)
      (rest : Spells (.items vs) ds) : Spells (.items (v :: vs)) (a ++ (cs ++ (b ++ ',' :: ds)))
  | entry {a ks k b c v cs d} (before : Blank a) (key : Letters ks k) (behind : Blank b) (within : Blank c)
      (value : Spells (.value v) cs) (after : Blank d) :
      Spells (.entries [(.text (String.ofList k), v)]) (a ++ '"' :: (ks ++ '"' :: (b ++ ':' :: (c ++ (cs ++ d)))))
  | entries {a ks k b c v cs d es ds} (before : Blank a) (key : Letters ks k) (behind : Blank b) (within : Blank c)
      (value : Spells (.value v) cs) (after : Blank d) (rest : Spells (.entries es) ds) :
      Spells (.entries ((.text (String.ofList k), v) :: es))
        (a ++ '"' :: (ks ++ '"' :: (b ++ ':' :: (c ++ (cs ++ (d ++ ',' :: ds))))))

inductive Document : Value → String → Prop
  | value {v : Value} {a cs b : List Char} {s : String} (before : Blank a) (value : Spells (.value v) cs)
      (after : Blank b) (spelled : s.toList = a ++ (cs ++ b)) : Document v s

/-! ## Blanks and first characters -/

theorem skipBlank {a : List Char} (blank : Blank a) (rest : List Char) : skipSpace (a ++ rest) = skipSpace rest :=
  List.dropWhile_append_of_pos blank

theorem skipSolid {c : Char} (solid : isSpace c = false) (rest : List Char) :
    skipSpace (c :: rest) = c :: rest := by
  rw [skipSpace, List.dropWhile_cons_of_neg (by simp [solid])]

theorem readBlank {fuel : Nat} {a : List Char} (blank : Blank a) (cs : List Char) :
    readValue? fuel (a ++ cs) = readValue? fuel cs := by
  cases fuel with
  | zero => rfl
  | succ fuel => rw [readValue?, readValue?, skipBlank blank]

theorem digitSolid (d : Digit) : isSpace d.char = false ∧ d.char ≠ ']' := by
  revert d
  decide

theorem opens {v : Value} {cs : List Char} (spells : Spells (.value v) cs) :
    ∃ c rest, cs = c :: rest ∧ isSpace c = false ∧ c ≠ ']' := by
  cases spells with
  | int negative leading =>
    rename_i d ds
    cases negative with
    | true => exact ⟨'-', digitChars (d :: ds), rfl, by decide⟩
    | false => exact ⟨d.char, digitChars ds, rfl, digitSolid d⟩
  | _ => exact ⟨_, _, rfl, by decide⟩

def Ended (rest : List Char) : Prop :=
  ∀ c ∈ rest.head?, plainDigitOf? c = none ∧ c ≠ '.' ∧ c ≠ 'e' ∧ c ≠ 'E'

theorem endedBlank {a rest : List Char} (blank : Blank a) (ended : Ended rest) : Ended (a ++ rest) := by
  cases a with
  | nil => exact ended
  | cons c a =>
    intro d first
    obtain rfl : c = d := Option.some.inj first
    have space := blank c (.head _)
    simp only [isSpace, Bool.or_eq_true, decide_eq_true_eq] at space
    rcases space with ((rfl | rfl) | rfl) | rfl <;> decide

/-! ## Texts -/

theorem knownEscape {c d : Char} (known : (c, d) ∈ escapes) : c ≠ 'u' ∧ simpleEscape? c = some d := by
  simp only [escapes, List.mem_cons, Prod.mk.injEq, List.not_mem_nil, or_false] at known
  rcases known with ⟨rfl, rfl⟩ | ⟨rfl, rfl⟩ | ⟨rfl, rfl⟩ | ⟨rfl, rfl⟩ | ⟨rfl, rfl⟩ | ⟨rfl, rfl⟩ | ⟨rfl, rfl⟩ |
    ⟨rfl, rfl⟩ <;> decide

theorem readPlain {c : Char} (quote : c ≠ '"') (escape : c ≠ '\\') (fuel : Nat) (cs : List Char) :
    readText? (fuel + 1) (c :: cs) = (readText? fuel cs).map fun r => (c :: r.1, r.2) := by
  rw [readText?, if_neg quote, if_neg escape]
  cases readText? fuel cs <;> rfl

theorem readEscaped {d : Char} {cs rest : List Char} (escape : readEscape? cs = some (d, rest)) (fuel : Nat) :
    readText? (fuel + 1) ('\\' :: cs) = (readText? fuel rest).map fun r => (d :: r.1, r.2) := by
  rw [readText?, if_neg (by decide), if_pos rfl, escape]
  change (readText? fuel rest).bind _ = _
  cases readText? fuel rest <;> rfl

theorem lettersRead {cs s : List Char} (letters : Letters cs s) : ∀ {fuel : Nat}, cs.length < fuel → ∀ rest,
    readText? fuel (cs ++ '"' :: rest) = some (s, rest) := by
  -- Each turn of the reader takes one character or one escape, and one unit of fuel.
  have turn : ∀ {fuel n : Nat}, n < fuel → ∃ left, fuel = left + 1 ∧ n ≤ left :=
    fun {fuel n} enough => ⟨fuel - 1, by omega, by omega⟩
  induction letters with
  | nil =>
    intro fuel enough rest
    obtain ⟨left, rfl, _⟩ := turn enough
    rfl
  | plain quote escape visible letters ih =>
    intro fuel enough rest
    obtain ⟨left, rfl, enough⟩ := turn enough
    rw [List.cons_append, readPlain quote escape, ih (by simpa using enough)]
    rfl
  | @escaped c d cs s known letters ih =>
    intro fuel enough rest
    obtain ⟨left, rfl, enough⟩ := turn enough
    obtain ⟨short, simple⟩ := knownEscape known
    have escape : readEscape? (c :: (cs ++ '"' :: rest)) = some (d, cs ++ '"' :: rest) := by
      unfold readEscape?
      split
      · rename_i same
        exact absurd (List.cons.inj same).1 short
      · rename_i same
        obtain ⟨rfl, rfl⟩ := List.cons.inj same
        rw [simple]
        rfl
      · rename_i same
        exact absurd same (List.cons_ne_nil _ _)
    rw [List.cons_append, List.cons_append, readEscaped escape, ih (by simp only [List.length_cons] at enough; omega)]
    rfl
  | @code a b c d n cs s number whole letters ih =>
    intro fuel enough rest
    obtain ⟨left, rfl, enough⟩ := turn enough
    have escape : readEscape? ('u' :: a :: b :: c :: d :: (cs ++ '"' :: rest)) =
        some (Char.ofNat n, cs ++ '"' :: rest) := by
      rw [readEscape?, number]
      simp [whole]
    simp only [List.cons_append]
    rw [readEscaped escape, ih (by simp only [List.length_cons] at enough; omega)]
    rfl
  | @codes a b c d e f g h n m cs s first high second low letters ih =>
    intro fuel enough rest
    obtain ⟨left, rfl, enough⟩ := turn enough
    have escape : readEscape? ('u' :: a :: b :: c :: d :: '\\' :: 'u' :: e :: f :: g :: h :: (cs ++ '"' :: rest)) =
        some (Char.ofNat (pairedSurrogates n m), cs ++ '"' :: rest) := by
      rw [readEscape?, first]
      simp [high, second, low]
    simp only [List.cons_append]
    rw [readEscaped escape, ih (by simp only [List.length_cons] at enough; omega)]
    rfl

/-! ## Scalars -/

theorem takeLeading (cs : List Char) : takeDigits cs = leadingDigits cs := by
  induction cs with
  | nil => rfl
  | cons c cs ih =>
    cases digit : plainDigitOf? c <;> simp [takeDigits, leadingDigits, digit, ih]

theorem fractionless {rest : List Char} (ended : Ended rest) : takeFraction rest = ([], rest) := by
  unfold takeFraction
  split
  · exact absurd rfl (ended '.' rfl).2.1
  · rfl

theorem powerless {rest : List Char} (ended : Ended rest) : takePower rest = (none, rest) := by
  cases rest with
  | nil => rfl
  | cons c rest =>
    obtain ⟨_, _, lower, upper⟩ := ended c rfl
    simp [takePower, lower, upper]

theorem wholeRead (negative : Bool) (d : Digit) (ds : List Digit) {rest : List Char} (ended : Ended rest) :
    readUnsigned? negative (digitChars (d :: ds) ++ rest) =
      some (.int (signed negative (ofDigits (d :: ds))), rest) := by
  rw [readUnsigned?, takeLeading, digitsLeading (d :: ds) fun c first => (ended c first).1]
  simp only [fractionless ended, powerless ended]
  rfl

theorem readScalar {c : Char} (solid : isSpace c = false) (other : c ≠ '"' ∧ c ≠ '[' ∧ c ≠ '\x7b') (fuel : Nat)
    (cs : List Char) : readValue? (fuel + 1) (c :: cs) = readScalar? (c :: cs) := by
  rw [readValue?, skipSolid solid]
  split
  · rename_i same
    exact absurd (List.cons.inj same).1 other.1
  · rename_i same
    exact absurd (List.cons.inj same).1 other.2.1
  · rename_i same
    exact absurd (List.cons.inj same).1 other.2.2
  · rfl

theorem digitOther (d : Digit) : (d.char ≠ '"' ∧ d.char ≠ '[' ∧ d.char ≠ '\x7b') ∧ d.char ≠ '-' ∧
    d.char ∉ ['n', 't', 'f', 'N', 'I'] := by
  revert d
  decide

theorem wordless {c : Char} {cs : List Char} (other : c ∉ ['n', 't', 'f', 'N', 'I'])
    (minus : c = '-' → cs.head? ≠ some 'I') :
    (words.findSome? fun w => (skipWord? w.1 (c :: cs)).map (w.2, ·)) = none := by
  have last : '-' = c → ¬['I', 'n', 'f', 'i', 'n', 'i', 't', 'y'] <+: cs := by
    rintro rfl ⟨rest, rfl⟩
    exact minus rfl rfl
  simp only [List.mem_cons, List.not_mem_nil, or_false, not_or] at other
  simp [words, skipWord?, Ne.symm other.1, Ne.symm other.2.1, Ne.symm other.2.2.1, Ne.symm other.2.2.2.1,
    Ne.symm other.2.2.2.2]
  exact last

theorem intRead (negative : Bool) (d : Digit) (ds : List Digit) {rest : List Char} (ended : Ended rest) (fuel : Nat) :
    readValue? (fuel + 1) (Number.Numeral.signChars negative ++ digitChars (d :: ds) ++ rest) =
      some (.int (signed negative (ofDigits (d :: ds))), rest) := by
  obtain ⟨apart, unsigned, other⟩ := digitOther d
  have whole := wholeRead negative d ds ended
  cases negative with
  | true =>
    have start : Number.Numeral.signChars true ++ digitChars (d :: ds) ++ rest =
      '-' :: (digitChars (d :: ds) ++ rest) := rfl
    rw [start, readScalar (by decide) (by decide), readScalar?, wordless (by decide)]
    · exact whole
    · intro _ first
      exact other (by simp [Option.some.inj first])
  | false =>
    have start : Number.Numeral.signChars false ++ digitChars (d :: ds) ++ rest =
      d.char :: (digitChars ds ++ rest) := rfl
    rw [start, readScalar (digitSolid d).1 apart, readScalar?, wordless other fun minus => absurd minus unsigned]
    · exact whole
    · exact fun _ same => absurd (List.cons.inj same).1 unsigned

theorem textRead {cs s : List Char} (letters : Letters cs s) (fuel : Nat) (rest : List Char) :
    readValue? (fuel + 1) ('"' :: (cs ++ '"' :: rest)) = some (.text (String.ofList s), rest) := by
  rw [readValue?, skipSolid (by decide)]
  simp only
  rw [lettersRead letters (by simp only [List.length_append, List.length_cons]; omega)]
  rfl

/-! ## Containers -/

section
variable {fuel : Nat} {cs middle behind more rest : List Char} {k : Key} {v : Value} {vs : List Value}
  {es : List (Key × Value)}

theorem readNoItems (fuel : Nat) (closing : skipSpace cs = ']' :: rest) :
    readValue? (fuel + 1) ('[' :: cs) = some (.list [], rest) := by
  rw [readValue?, skipSolid (by decide)]
  simp only [closing]

theorem readList (given : ∃ c more, skipSpace cs = c :: more ∧ c ≠ ']')
    (items : readItems? fuel cs = some (vs, rest)) : readValue? (fuel + 1) ('[' :: cs) = some (.list vs, rest) := by
  obtain ⟨c, more, start, other⟩ := given
  rw [readValue?, skipSolid (by decide)]
  simp only [start, items]
  split
  · rename_i same
    exact absurd (List.cons.inj same).1 other
  · rfl

theorem readNoEntries (fuel : Nat) (closing : skipSpace cs = '\x7d' :: rest) :
    readValue? (fuel + 1) ('\x7b' :: cs) = some (.dict [], rest) := by
  rw [readValue?, skipSolid (by decide)]
  simp only [closing]

theorem readDict (given : ∃ more, skipSpace cs = '"' :: more) (entries : readEntries? fuel cs = some (es, rest)) :
    readValue? (fuel + 1) ('\x7b' :: cs) = some (.dict (Entries.ofPairs es), rest) := by
  obtain ⟨more, start⟩ := given
  rw [readValue?, skipSolid (by decide)]
  simp only [start, entries]
  rfl

theorem readItem (value : readValue? fuel cs = some (v, behind)) (closing : skipSpace behind = ']' :: rest) :
    readItems? (fuel + 1) cs = some ([v], rest) := by
  rw [readItems?, value]
  simp [closing]

theorem readMoreItems (value : readValue? fuel cs = some (v, behind)) (comma : skipSpace behind = ',' :: more)
    (others : readItems? fuel more = some (vs, rest)) : readItems? (fuel + 1) cs = some (v :: vs, rest) := by
  rw [readItems?, value]
  simp [comma, others]

theorem readEntry (key : readKey? cs = some (k, middle)) (value : readValue? fuel middle = some (v, behind))
    (closing : skipSpace behind = '\x7d' :: rest) : readEntries? (fuel + 1) cs = some ([(k, v)], rest) := by
  rw [readEntries?, key]
  simp [value, closing]

theorem readMoreEntries (key : readKey? cs = some (k, middle)) (value : readValue? fuel middle = some (v, behind))
    (comma : skipSpace behind = ',' :: more) (others : readEntries? fuel more = some (es, rest)) :
    readEntries? (fuel + 1) cs = some ((k, v) :: es, rest) := by
  rw [readEntries?, key]
  simp [value, comma, others]

end

theorem keyRead {a ks k b : List Char} (before : Blank a) (letters : Letters ks k) (behind : Blank b)
    (rest : List Char) :
    readKey? (a ++ '"' :: (ks ++ '"' :: (b ++ ':' :: rest))) = some (.text (String.ofList k), rest) := by
  rw [readKey?, skipBlank before, skipSolid (by decide)]
  simp only
  rw [lettersRead letters (by simp only [List.length_append, List.length_cons]; omega)]
  simp [skipBlank behind, skipSolid (c := ':') (by decide)]

def Reads : Phrase → List Char → Prop
  | .value v, cs => ∀ fuel {rest}, 2 * cs.length ≤ fuel + 1 → Ended rest → readValue? fuel (cs ++ rest) = some (v, rest)
  | .items vs, cs => ∀ fuel rest, 2 * cs.length ≤ fuel → readItems? fuel (cs ++ ']' :: rest) = some (vs, rest)
  | .entries es, cs =>
    ∀ fuel rest, 2 * cs.length ≤ fuel → readEntries? fuel (cs ++ '\x7d' :: rest) = some (es, rest)

theorem itemsStart {vs : List Value} {cs : List Char} (spells : Spells (.items vs) cs) (rest : List Char) :
    ∃ c more, skipSpace (cs ++ rest) = c :: more ∧ c ≠ ']' := by
  cases spells with
  | item before value after =>
    obtain ⟨c, more, rfl, solid, other⟩ := opens value
    rw [List.append_assoc, skipBlank before]
    exact ⟨c, _, skipSolid solid _, other⟩
  | items before value after others =>
    obtain ⟨c, more, rfl, solid, other⟩ := opens value
    rw [List.append_assoc, skipBlank before]
    exact ⟨c, _, skipSolid solid _, other⟩

theorem entriesStart {es : List (Key × Value)} {cs : List Char} (spells : Spells (.entries es) cs)
    (rest : List Char) :
    ∃ more, skipSpace (cs ++ rest) = '"' :: more := by
  cases spells with
  | entry before key behind within value after =>
    rw [List.append_assoc, skipBlank before]
    exact ⟨_, skipSolid (by decide) _⟩
  | entries before key behind within value after others =>
    rw [List.append_assoc, skipBlank before]
    exact ⟨_, skipSolid (by decide) _⟩

theorem closed {a : List Char} (blank : Blank a) {c : Char} (mark : c = ',' ∨ c = ']' ∨ c = '\x7d')
    (rest : List Char) : Ended (a ++ c :: rest) ∧ skipSpace (a ++ c :: rest) = c :: rest := by
  have ended : Ended (c :: rest) := by
    intro d first
    obtain rfl : c = d := Option.some.inj first
    rcases mark with rfl | rfl | rfl <;> decide
  have solid : isSpace c = false := by
    rcases mark with rfl | rfl | rfl <;> decide
  exact ⟨endedBlank blank ended, by rw [skipBlank blank, skipSolid solid]⟩

theorem valueTakes {v : Value} {cs : List Char} (spells : Spells (.value v) cs) : 0 < cs.length := by
  obtain ⟨c, rest, rfl, _⟩ := opens spells
  exact Nat.succ_pos _

theorem reads {p : Phrase} {cs : List Char} (spells : Spells p cs) : Reads p cs := by
  -- A phrase takes a character at least, so there is fuel for it.
  have turn : ∀ {n fuel : Nat}, 0 < n → 2 * n ≤ fuel + 1 → ∃ left, fuel = left + 1 :=
    fun {_ fuel} _ _ => ⟨fuel - 1, by omega⟩
  induction spells with
  | null | yes | no =>
    intro fuel rest enough ended
    obtain ⟨left, rfl⟩ := turn (by decide) enough
    simp only [List.cons_append, List.nil_append]
    rw [readScalar (by decide) (by decide)]
    simp [readScalar?, words, skipWord?]
  | int negative leading =>
    intro fuel rest enough ended
    obtain ⟨left, rfl⟩ := turn (valueTakes (.int negative leading)) enough
    exact intRead negative _ _ ended left
  | text letters =>
    intro fuel rest enough ended
    obtain ⟨left, rfl⟩ := turn (Nat.succ_pos _) enough
    simpa using textRead letters left rest
  | noItems blank =>
    intro fuel rest enough ended
    obtain ⟨left, rfl⟩ := turn (Nat.succ_pos _) enough
    simpa using readNoItems left (closed blank (by simp) rest).2
  | list items ih =>
    intro fuel rest enough ended
    obtain ⟨left, rfl⟩ := turn (Nat.succ_pos _) enough
    simpa using readList (itemsStart items _) (ih left rest (by simp only [List.length_cons, List.length_append] at enough; omega))
  | noEntries blank =>
    intro fuel rest enough ended
    obtain ⟨left, rfl⟩ := turn (Nat.succ_pos _) enough
    simpa using readNoEntries left (closed blank (by simp) rest).2
  | dict entries ih =>
    intro fuel rest enough ended
    obtain ⟨left, rfl⟩ := turn (Nat.succ_pos _) enough
    simpa using readDict (entriesStart entries _) (ih left rest (by simp only [List.length_cons, List.length_append] at enough; omega))
  | @item a v cs b before value after ih =>
    intro fuel rest enough
    have taken := valueTakes value
    simp only [List.length_append] at enough
    obtain ⟨left, rfl⟩ : ∃ left, fuel = left + 1 := ⟨fuel - 1, by omega⟩
    obtain ⟨ended, closing⟩ := closed after (.inr (.inl rfl)) rest
    have read := ih left (by omega) ended
    rw [← readBlank before] at read
    simpa using readItem read closing
  | @items a v cs b vs ds before value after others ih tail =>
    intro fuel rest enough
    have taken := valueTakes value
    simp only [List.length_append, List.length_cons] at enough
    obtain ⟨left, rfl⟩ : ∃ left, fuel = left + 1 := ⟨fuel - 1, by omega⟩
    obtain ⟨ended, comma⟩ := closed after (.inl rfl) (ds ++ ']' :: rest)
    have read := ih left (by omega) ended
    rw [← readBlank before] at read
    simpa using readMoreItems read comma (tail left rest (by omega))
  | @entry a ks k b c v cs d before key behind within value after ih =>
    intro fuel rest enough
    simp only [List.length_append, List.length_cons] at enough
    obtain ⟨left, rfl⟩ : ∃ left, fuel = left + 1 := ⟨fuel - 1, by omega⟩
    obtain ⟨ended, closing⟩ := closed after (.inr (.inr rfl)) rest
    have read := ih left (by omega) ended
    rw [← readBlank within] at read
    simpa using readEntry (keyRead before key behind _) read closing
  | @entries a ks k b c v cs d es ds before key behind within value after others ih tail =>
    intro fuel rest enough
    simp only [List.length_append, List.length_cons] at enough
    obtain ⟨left, rfl⟩ : ∃ left, fuel = left + 1 := ⟨fuel - 1, by omega⟩
    obtain ⟨ended, comma⟩ := closed after (.inl rfl) (ds ++ '\x7d' :: rest)
    have read := ih left (by omega) ended
    rw [← readBlank within] at read
    simpa using readMoreEntries (keyRead before key behind _) read comma (tail left rest (by omega))

theorem documentRead {v : Value} {s : String} (document : Document v s) : read? s = some v := by
  obtain ⟨before, value, after, spelled⟩ := document
  rename_i a cs b
  have ended : Ended (b ++ []) := endedBlank after (by simp [Ended])
  rw [List.append_nil] at ended
  have enough : 2 * cs.length ≤ 2 * s.toList.length + 1 + 1 := by
    rw [spelled]
    simp
    omega
  have read := reads value _ enough ended
  rw [← readBlank before] at read
  have behind : skipSpace b = [] := by simpa [skipSpace] using skipBlank after []
  unfold read?
  rw [spelled] at read ⊢
  simp only [read, behind]
  rfl

theorem documentClear {v w : Value} {s : String} (first : Document v s) (second : Document w s) : v = w :=
  Option.some.inj ((documentRead first).symm.trans (documentRead second))

end TypoSearch.Json
