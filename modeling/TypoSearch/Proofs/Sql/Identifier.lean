import TypoSearch.Proofs.Sql.Lexeme

/-! The identifier that a text begins with. It is a lower-case word that is no keyword, or it stands in
quotes, where a doubled quote counts once. A name is read back from what is written for it as long as it is
not a word with a line break behind: such a name is written bare, and the line break parts it from what
follows. -/
namespace TypoSearch.Sql

namespace Identifier

def quotedFrom : (closing : Bool) → List Char → Option (List Char × List Char)
  | false, [] => none
  | true, [] => some ([], [])
  | false, c :: cs =>
    if c = '"' then quotedFrom true cs else (quotedFrom false cs).map fun r => (c :: r.1, r.2)
  | true, c :: cs =>
    if c = '"' then (quotedFrom false cs).map fun r => (c :: r.1, r.2) else some ([], c :: cs)

def bare (cs : List Char) : Option (List Char × List Char) :=
  let word := cs.takeWhile continuesBare
  if isWord startsBare continuesBare word && !keywords.contains (String.ofList word) then
    some (word, cs.dropWhile continuesBare)
  else none

def first (cs : List Char) : Option (String × List Char) := do
  let cs := cs.dropWhile Scan.isSpace
  let (name, rest) ← if cs.head? = some '"' then quotedFrom false cs.tail else bare cs
  if name.isEmpty then none else return (String.ofList name, rest)

inductive Follows : List Char → Prop where
  | blank (cs) : Follows (' ' :: cs)
  | comma (cs) : Follows (',' :: cs)
  | close (cs) : Follows (')' :: cs)

def LineEnded (name : String) : Prop :=
  name.toList.getLast? = some '\n' ∧ isWord startsBare continuesBare name.toList.dropLast = true

instance (name : String) : Decidable (LineEnded name) := by
  unfold LineEnded
  infer_instance

theorem followsHead {rest : List Char} (follows : Follows rest) :
    ∃ c cs, rest = c :: cs ∧ continuesBare c = false ∧ c ≠ '"' := by
  cases follows with
  | blank cs => exact ⟨_, cs, rfl, by decide, by decide⟩
  | comma cs => exact ⟨_, cs, rfl, by decide, by decide⟩
  | close cs => exact ⟨_, cs, rfl, by decide, by decide⟩

/-! ## Quoted names -/

theorem quotedDoubled {rest : List Char} (ends : rest.head? ≠ some '"') (cs : List Char) :
    quotedFrom false (doubled '"' cs ++ '"' :: rest) = some (cs, rest) := by
  induction cs with
  | nil =>
    have closed : quotedFrom true rest = some ([], rest) := by
      cases rest with
      | nil => rfl
      | cons c rest =>
        have other : c ≠ '"' := by simpa using ends
        rw [quotedFrom, if_neg other]
    simpa [doubled, quotedFrom] using closed
  | cons c cs ih =>
    rw [doubledCons]
    by_cases quote : c = '"'
    · simp [quote, quotedFrom, ih]
    · simp [quote, quotedFrom, ih]

theorem firstQuoted {name rest : List Char} (named : name ≠ []) (ends : rest.head? ≠ some '"') :
    first (enclose '"' name ++ rest) = some (String.ofList name, rest) := by
  have whole : enclose '"' name ++ rest = '"' :: (doubled '"' name ++ '"' :: rest) := by simp [enclose]
  have begins : ('"' :: (doubled '"' name ++ '"' :: rest)).dropWhile Scan.isSpace =
      '"' :: (doubled '"' name ++ '"' :: rest) := List.dropWhile_cons_of_neg (by decide)
  rw [whole, first, begins]
  simp [quotedDoubled ends, named]

/-! ## Bare names -/

theorem wordContinues {word : List Char} (isName : isWord startsBare continuesBare word = true) :
    word ≠ [] ∧ ∀ c ∈ word, continuesBare c = true := by
  cases word with
  | nil => simp [isWord] at isName
  | cons c cs =>
    simp only [isWord, Bool.and_eq_true, List.all_eq_true] at isName
    refine ⟨by simp, fun d member => ?_⟩
    rcases List.mem_cons.mp member with rfl | inside
    · simp [continuesBare, isName.1]
    · exact isName.2 d inside

theorem continuesDiffers {c : Char} (continues : continuesBare c = true) :
    Scan.isSpace c = false ∧ c ≠ '"' := by
  refine ⟨Bool.eq_false_iff.mpr fun space => ?_, ?_⟩
  · simp only [Scan.isSpace, Bool.or_eq_true, decide_eq_true_eq] at space
    rcases space with (((rfl | rfl) | rfl) | rfl) | rfl <;> exact absurd continues (by decide)
  · rintro rfl
    exact absurd continues (by decide)

theorem bareWord {word : List Char} (isName : isWord startsBare continuesBare word = true) {c : Char}
    (stops : continuesBare c = false) (cs : List Char) :
    bare (word ++ c :: cs) = if keywords.contains (String.ofList word) then none else some (word, c :: cs) := by
  have all := (wordContinues isName).2
  have taken : (word ++ c :: cs).takeWhile continuesBare = word := by
    rw [List.takeWhile_append_of_pos all, List.takeWhile_cons_of_neg (by simp [stops]), List.append_nil]
  have dropped : (word ++ c :: cs).dropWhile continuesBare = c :: cs := by
    rw [List.dropWhile_append_of_pos all, List.dropWhile_cons_of_neg (by simp [stops])]
  rw [bare, taken, dropped]
  cases keywords.contains (String.ofList word) <;> simp [isName]

theorem firstBare {word : List Char} (isName : isWord startsBare continuesBare word = true) {c : Char}
    (stops : continuesBare c = false) (cs : List Char) :
    first (word ++ c :: cs) =
      if keywords.contains (String.ofList word) then none else some (String.ofList word, c :: cs) := by
  obtain ⟨letters, all⟩ := wordContinues isName
  obtain ⟨d, ds, rfl⟩ := List.exists_cons_of_ne_nil letters
  obtain ⟨notSpace, notQuote⟩ := continuesDiffers (all d List.mem_cons_self)
  have begins : ((d :: ds) ++ c :: cs).dropWhile Scan.isSpace = (d :: ds) ++ c :: cs :=
    List.dropWhile_cons_of_neg (by simp [notSpace])
  have unquoted : ¬((d :: ds) ++ c :: cs).head? = some '"' := by simpa using notQuote
  rw [first, begins, if_neg unquoted, bareWord isName stops]
  cases keywords.contains (String.ofList (d :: ds)) <;> simp

/-! ## The form of a name -/

theorem keywordsUnbroken : ∀ keyword ∈ keywords, '\n' ∉ keyword.toList := by decide +kernel

theorem lineEndedWord {name : String} (ended : LineEnded name) :
    ∃ word, isWord startsBare continuesBare word = true ∧ name.toList = word ++ ['\n'] := by
  obtain ⟨last, isName⟩ := ended
  obtain ⟨word, whole⟩ := List.getLast?_eq_some_iff.mp last
  rw [whole, List.dropLast_concat] at isName
  exact ⟨word, isName, whole⟩

theorem lineEndedBare {name : String} (ended : LineEnded name) : standsBare name.toList = true := by
  obtain ⟨word, isName, whole⟩ := lineEndedWord ended
  have dropped : Text.dropLineEnd (word ++ ['\n']) = word := by simp [Text.dropLineEnd]
  have other : name ∉ keywords := fun member => keywordsUnbroken name member (by simp [whole])
  rw [standsBare, String.ofList_toList, whole, dropped, isName]
  simpa using other

theorem standsBareWord {name : String} (bare : standsBare name.toList = true) (whole : ¬LineEnded name) :
    isWord startsBare continuesBare name.toList = true ∧ keywords.contains name = false := by
  simp only [standsBare, String.ofList_toList, Bool.and_eq_true, Bool.not_eq_true'] at bare
  refine ⟨?_, bare.2⟩
  have isName := bare.1
  unfold Text.dropLineEnd at isName
  split at isName
  · rename_i last
    exact absurd ⟨last, isName⟩ whole
  · exact isName

/- The word alone is read, with the line break left to the text behind it. A keyword is no identifier, so then
nothing is read. -/
theorem lineEndLost {name : String} (ended : LineEnded name) (rest : List Char) :
    ∃ word, name.toList = word ++ ['\n'] ∧ first ((Quoting.sparing.identifier name).toList ++ rest) =
      if keywords.contains (String.ofList word) then none else some (String.ofList word, '\n' :: rest) := by
  have written : (Quoting.sparing.identifier name).toList = name.toList := by
    rw [Quoting.identifier, String.toList_ofList, Quoting.identifierChars, if_pos (lineEndedBare ended)]
  obtain ⟨word, isName, whole⟩ := lineEndedWord ended
  refine ⟨word, whole, ?_⟩
  rw [written, whole, List.append_assoc]
  exact firstBare isName (by decide) rest

theorem nameRead {name : String} (nonempty : name ≠ "") (whole : ¬LineEnded name) {rest : List Char}
    (follows : Follows rest) :
    first ((Quoting.sparing.identifier name).toList ++ rest) = some (name, rest) := by
  obtain ⟨c, cs, rfl, stops, other⟩ := followsHead follows
  rw [Quoting.identifier, String.toList_ofList, Quoting.identifierChars]
  split
  · rename_i bare
    obtain ⟨isName, free⟩ := standsBareWord bare whole
    rw [firstBare isName stops, String.ofList_toList, free]
    rfl
  · rw [firstQuoted (by simpa using nonempty) (by simpa using other), String.ofList_toList]

theorem keywordQuoted {keyword : String} (member : keyword ∈ keywords) :
    Quoting.sparing.identifier keyword = String.ofList (enclose '"' keyword.toList) := by
  have refused : ¬standsBare keyword.toList = true := by simp [standsBare, member]
  rw [Quoting.identifier, Quoting.identifierChars, if_neg refused]

section
variable {name : String} {rest : List Char}

theorem identifierKept (nonempty : name ≠ "") (follows : Follows rest) :
    (first ((Quoting.sparing.identifier name).toList ++ rest) = some (name, rest) ↔ ¬LineEnded name) ∧
    (name ∈ keywords → Quoting.sparing.identifier name = String.ofList (enclose '"' name.toList)) ∧
    ∀ (other : String) (after : List Char), other ≠ "" → Follows after → ¬LineEnded name → ¬LineEnded other →
      (first ((Quoting.sparing.identifier other).toList ++ after)).map Prod.fst =
        (first ((Quoting.sparing.identifier name).toList ++ rest)).map Prod.fst → other = name := by
  refine ⟨⟨?_, fun whole => nameRead nonempty whole follows⟩, keywordQuoted, ?_⟩
  · intro read ended
    obtain ⟨word, same, lost⟩ := lineEndLost ended rest
    rw [lost] at read
    split at read
    · cases read
    · simp only [Option.some.injEq, Prod.mk.injEq] at read
      have longer := congrArg List.length read.2
      simp at longer
  · intro other after some following whole otherWhole same
    rw [nameRead nonempty whole follows, nameRead some otherWhole following] at same
    exact Option.some.inj same

end

theorem identifierKeptQuoted :
    first ((Quoting.sparing.identifier "User\n").toList ++ ", id".toList) = some ("User\n", ", id".toList) ∧
      Quoting.sparing.identifier "user" = "\"user\"" ∧
      (first ((Quoting.sparing.identifier "User").toList ++ ") = 1".toList)).map Prod.fst ≠
        (first ((Quoting.sparing.identifier "User\n").toList ++ ", id".toList)).map Prod.fst := by
  have kept := identifierKept (by decide : "User\n" ≠ "") (.comma " id".toList)
  have keyword := (identifierKept (by decide : "user" ≠ "") (.comma " id".toList)).2.1
  refine ⟨kept.1.mpr (by decide +kernel), (keyword (by decide +kernel)).trans (by decide +kernel), fun same => ?_⟩
  exact absurd (kept.2.2 "User" ") = 1".toList (by decide) (.close " = 1".toList) (by decide +kernel)
    (by decide +kernel) same) (by decide)

theorem identifierCut :
    "abc\n" ≠ "" ∧ Follows [' '] ∧
      first ((Quoting.sparing.identifier "abc\n").toList ++ [' ']) = some ("abc", ['\n', ' ']) ∧
      first ((Quoting.sparing.identifier "abc").toList ++ [' ']) = some ("abc", [' ']) ∧
      Quoting.sparing.identifier "user\n" = "user\n" ∧
      first ((Quoting.sparing.identifier "user\n").toList ++ [' ']) = none :=
  ⟨by decide, .blank [], by decide +kernel, by decide +kernel, by decide +kernel, by decide +kernel⟩

end Identifier
end TypoSearch.Sql
