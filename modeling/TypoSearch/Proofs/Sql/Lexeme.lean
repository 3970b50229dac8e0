import TypoSearch.Proofs.Number.Plain
import TypoSearch.Proofs.Sql.Token

/-! What each quoted or named part of a clause is read as. A literal comes back as the text that it was
made from, whatever characters that text has, and so does a quoted name. A name that stands bare is one
word, without the line break that may end it. -/
namespace TypoSearch.Sql
open Number

theorem doubledCons (q c : Char) (cs : List Char) :
    doubled q (c :: cs) = (if c = q then [c, c] else [c]) ++ doubled q cs := by
  simp [doubled]

namespace Scan

theorem doubledRun (q : Quoting) (k : Kind) (read cs : List Char) :
    run q (.quoted k read) (doubled k.quote cs) = some ([], .quoted k (read ++ cs)) := by
  induction cs generalizing read with
  | nil => simp [doubled, run]
  | cons c cs ih =>
    have head : run q (.quoted k read) (if c = k.quote then [c, c] else [c]) =
        some ([], .quoted k (read ++ [c])) := by
      split <;> simp_all [run, step]
    rw [doubledCons, runSilent head (ih (read ++ [c]))]
    simp

theorem bodyRun (q : Quoting) (k : Kind) (cs : List Char) :
    run q (.quoted k []) (doubled k.quote cs ++ [k.quote]) = some ([], .closing k cs) := by
  have closes : run q (.quoted k cs) [k.quote] = some ([], .closing k cs) := by simp [run, step]
  exact runSilent (doubledRun q k [] cs) (by simpa using closes)

theorem enclosedRun (q : Quoting) (k : Kind) (cs : List Char) :
    run q .between (enclose k.quote cs) = some ([], .closing k cs) := by
  have opens : step q .between k.quote = some ([], .quoted k []) := by cases k <;> rfl
  rw [enclose, List.cons_append, runCons opens, bodyRun]
  simp

/-- Quotes are doubled before backslashes, so each doubled quote is still read as one. -/
theorem escapingRun (read cs : List Char) :
    run .sparing (.escaping read) (doubled '\\' (doubled '\'' cs)) = some ([], .escaping (read ++ cs)) := by
  induction cs generalizing read with
  | nil => simp [doubled, run]
  | cons c cs ih =>
    have head : run .sparing (.escaping read) (doubled '\\' (if c = '\'' then [c, c] else [c])) =
        some ([], .escaping (read ++ [c])) := by
      by_cases quote : c = '\''
      · subst c; simp [doubled, run, step]
      · by_cases backslash : c = '\\'
        · subst c; simp [doubled, run, step, unescape, isDigit]
        · simp [doubled, run, step, quote, backslash]
    have split : doubled '\\' (doubled '\'' (c :: cs)) =
        doubled '\\' (if c = '\'' then [c, c] else [c]) ++ doubled '\\' (doubled '\'' cs) := by
      rw [doubledCons, doubled, List.flatMap_append]
      rfl
    rw [split, runSilent head (ih (read ++ [c]))]
    simp

theorem escapedBodyRun (cs : List Char) :
    run .sparing (.escaping []) (doubled '\\' (doubled '\'' cs) ++ ['\'']) =
      some ([], .closingEscaping cs) := by
  have closes : run .sparing (.escaping cs) ['\''] = some ([], .closingEscaping cs) := by
    simp [run, step]
  exact runSilent (escapingRun [] cs) (by simpa using closes)

theorem escapedRun (cs : List Char) :
    run .sparing .between ('E' :: '\'' :: doubled '\\' (doubled '\'' cs) ++ ['\'']) =
      some ([], .closingEscaping cs) := by
  have opens : run .sparing .between ['E', '\''] = some ([], .escaping []) := by decide
  simpa using runSilent opens (escapedBodyRun cs)

theorem continuesRun (q : Quoting) (read cs : List Char) (continues : cs.all continuesName) :
    run q (.word read) cs = some ([], .word (read ++ cs)) := by
  induction cs generalizing read with
  | nil => simp [run]
  | cons c cs ih =>
    simp only [List.all_cons, Bool.and_eq_true] at continues
    have head : step q (.word read) c = some ([], .word (read ++ [c])) := by simp [step, continues.1]
    rw [runCons head, ih _ continues.2]
    simp

theorem startsDiffers {c : Char} (starts : startsName c) :
    isSpace c = false ∧ isMark c = false ∧ c ≠ '>' ∧ c ≠ '"' ∧ c ≠ '\'' := by
  refine ⟨?_, ?_, ?_, ?_, ?_⟩
  · refine Bool.eq_false_iff.mpr fun space => ?_
    simp only [isSpace, Bool.or_eq_true, decide_eq_true_eq] at space
    rcases space with (((rfl | rfl) | rfl) | rfl) | rfl <;> exact absurd starts (by decide)
  · refine Bool.eq_false_iff.mpr fun mark => ?_
    simp only [isMark, Bool.or_eq_true, decide_eq_true_eq] at mark
    rcases mark with ((((rfl | rfl) | rfl) | rfl) | rfl) | rfl <;> exact absurd starts (by decide)
  all_goals
    rintro rfl
    exact absurd starts (by decide)

theorem wordRun (q : Quoting) {cs : List Char} (isName : isWord startsName continuesName cs) :
    run q .between cs = some ([], .word cs) := by
  cases cs with
  | nil => simp [isWord] at isName
  | cons c cs =>
    simp only [isWord, Bool.and_eq_true] at isName
    have differs := startsDiffers isName.1
    have head : step q .between c = some ([], .word [c]) := by simp [step, begin, differs, isName.1]
    rw [runCons head, continuesRun q [c] cs isName.2]
    simp

end Scan

theorem enclosedLiteralRead (q : Quoting) (s : String) :
    tokens q (enclose '\'' s.toList) = some [.literal s] := by
  simpa [Scan.Kind.token, Scan.Kind.quote] using runTokens (Scan.enclosedRun q .literal s.toList) rfl

theorem enclosedNameRead (q : Quoting) (s : String) :
    tokens q (enclose '"' s.toList) = some [.name s] := by
  simpa [Scan.Kind.token, Scan.Kind.quote] using runTokens (Scan.enclosedRun q .name s.toList) rfl

theorem literalRead (q : Quoting) (s : String) : tokens q (q.literal s).toList = some [.literal s] := by
  rw [Quoting.literal, String.toList_ofList]
  cases q with
  | plain => exact enclosedLiteralRead .plain s
  | sparing =>
    rw [Quoting.literalChars]
    split
    · simpa using runTokens (Scan.escapedRun s.toList) rfl
    · exact enclosedLiteralRead .sparing s

theorem wordRead (q : Quoting) {cs : List Char} (isName : isWord startsName continuesName cs) :
    tokens q cs = some [.word (String.ofList cs)] :=
  runTokens (Scan.wordRun q isName) rfl

theorem lineEndRead {q cs ts} (read : tokens q (Text.dropLineEnd cs) = some ts) :
    tokens q cs = some ts := by
  unfold Text.dropLineEnd at read
  split at read
  · rename_i last
    obtain ⟨before, rfl⟩ := List.getLast?_eq_some_iff.mp last
    have separates : Separates '\n' := .inr (.inl rfl)
    rw [List.dropLast_concat] at read
    simpa [separatorTokens, Scan.isSpace] using tokensSeparated read separates (tokensNil q)
  · exact read

namespace Quoting

def identifierToken (q : Quoting) (s : String) : Token :=
  match q with
  | sparing =>
    if standsBare s.toList then .word (String.ofList (Text.dropLineEnd s.toList)) else .name s
  | plain => .name s

end Quoting

theorem bareIsName {cs : List Char} (bare : isWord startsBare continuesBare cs) :
    isWord startsName continuesName cs := by
  have starts : ∀ c, startsBare c → startsName c := by
    intro c h
    simp only [startsBare, Bool.or_eq_true] at h
    rcases h with lower | line <;> simp [startsName, *]
  have continues : ∀ c, continuesBare c → continuesName c := by
    intro c h
    simp only [continuesBare, Bool.or_eq_true] at h
    rcases h with start | digit
    · simp [continuesName, starts c start]
    · simp [continuesName, digit]
  cases cs with
  | nil => simp [isWord] at bare
  | cons c cs =>
    simp only [isWord, Bool.and_eq_true, List.all_eq_true] at bare ⊢
    exact ⟨starts c bare.1, fun d hd => continues d (bare.2 d hd)⟩

theorem identifierRead (q : Quoting) (s : String) :
    tokens q (q.identifier s).toList = some [q.identifierToken s] := by
  rw [Quoting.identifier, String.toList_ofList]
  cases q with
  | plain => exact enclosedNameRead .plain s
  | sparing =>
    rw [Quoting.identifierChars, Quoting.identifierToken]
    split
    · rename_i bare
      simp only [standsBare, Bool.and_eq_true] at bare
      exact lineEndRead (wordRead .sparing (bareIsName bare.1))
    · exact enclosedNameRead .sparing s

def functionTokens (s : String) : List Token :=
  let cs := Text.dropLineEnd s.toList
  let first := Token.word (String.ofList (cs.takeWhile (· != '.')))
  match cs.dropWhile (· != '.') with
  | [] => [first]
  | _ :: second => [first, .mark '.', .word (String.ofList second)]

theorem functionRead (q : Quoting) {s : String} (accepted : isFunctionName s) :
    tokens q s.toList = some (functionTokens s) := by
  apply lineEndRead
  have whole := List.takeWhile_append_dropWhile (p := (· != '.')) (l := Text.dropLineEnd s.toList)
  simp only [isFunctionName] at accepted
  rw [functionTokens]
  cases rest : (Text.dropLineEnd s.toList).dropWhile (· != '.') with
  | nil =>
    rw [rest, List.append_nil] at whole
    simp only [rest] at accepted
    rw [whole] at accepted ⊢
    exact wordRead q accepted
  | cons dot second =>
    have isDot : dot = '.' := by
      have stops := List.head?_dropWhile_not (· != '.') (Text.dropLineEnd s.toList)
      simpa [rest] using stops
    subst dot
    simp only [rest, Bool.and_eq_true] at accepted
    rw [rest] at whole
    have first := Scan.wordRun q accepted.1
    have between : Scan.step q (.word ((Text.dropLineEnd s.toList).takeWhile (· != '.'))) '.' =
        some ([.word (String.ofList ((Text.dropLineEnd s.toList).takeWhile (· != '.'))), .mark '.'],
          .between) := by
      simp [Scan.step, Scan.begin, Scan.isSpace, Scan.isMark,
        show continuesName '.' = false by decide]
    have ran := Scan.runAppend first ('.' :: second)
    rw [whole, Scan.runCons between, Scan.wordRun q accepted.2] at ran
    simpa using runTokens ran rfl

namespace Scan

theorem digitChar (d : Digit) : isDigit d.char = true ∧ isSpace d.char = false ∧
    isMark d.char = false ∧ startsName d.char = false ∧
    d.char ≠ '>' ∧ d.char ≠ '"' ∧ d.char ≠ '\'' ∧ d.char ≠ '.' := by
  revert d
  decide

theorem digitsRun (q : Quoting) (read : List Char) (ds : List Digit) :
    run q (.numeral read) (digitChars ds) = some ([], .numeral (read ++ digitChars ds)) := by
  induction ds generalizing read with
  | nil => simp [digitChars, run]
  | cons d ds ih =>
    have head : step q (.numeral read) d.char = some ([], .numeral (read ++ [d.char])) := by
      simp [step, digitChar d]
    have rest := runCons head (digitChars ds)
    rw [ih] at rest
    simpa [digitChars] using rest

theorem noPoint (ds : List Digit) : (digitChars ds).contains '.' = false := by
  refine Bool.eq_false_iff.mpr fun found => ?_
  obtain ⟨d, _, same⟩ := List.mem_map.mp (List.contains_iff_mem.mp found)
  exact (digitChar d).2.2.2.2.2.2.2 same

theorem fractionRun (q : Quoting) {read : List Char} (noPoint : read.contains '.' = false)
    (ds : List Digit) :
    run q (.numeral read) (Numeral.fractionChars ds) =
      some ([], .numeral (read ++ Numeral.fractionChars ds)) := by
  unfold Numeral.fractionChars
  split
  · simp [run]
  · have point : step q (.numeral read) '.' = some ([], .numeral (read ++ ['.'])) := by
      simp only [step, noPoint]
      rfl
    rw [runCons point, digitsRun]
    simp

theorem numeralRun (q : Quoting) {whole : List Digit} (nonempty : whole ≠ []) (fraction : List Digit) :
    run q .between (digitChars whole ++ Numeral.fractionChars fraction) =
      some ([], .numeral (digitChars whole ++ Numeral.fractionChars fraction)) := by
  obtain ⟨d, ds, rfl⟩ := List.exists_cons_of_ne_nil nonempty
  have head : step q .between d.char = some ([], .numeral [d.char]) := by
    simp [step, begin, digitChar d]
  have digits := runCons head (digitChars ds)
  rw [digitsRun] at digits
  refine runSilent ?_ (fractionRun q (noPoint (d :: ds)) fraction)
  simpa [digitChars] using digits

end Scan

theorem numeralRead (q : Quoting) (units : Nat) :
    tokens q (Binary64.finite false units).plainText.toList =
      some [.numeral (Binary64.finite false units).plainText] := by
  obtain ⟨whole, fraction, nonempty, chars⟩ := plainTextChars units
  have read := runTokens (Scan.numeralRun q nonempty fraction) rfl
  rw [← chars, String.ofList_toList] at read
  exact read

end TypoSearch.Sql
