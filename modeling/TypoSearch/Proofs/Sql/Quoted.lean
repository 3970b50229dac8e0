import TypoSearch.Proofs.Sql.Lexeme

/-! The quoted piece that a text begins with, and the text behind it. A piece ends at the first closing quote
that has no other behind it, whatever else stands there. In the sparing style a setting of the engine says
whether a backslash in a literal without a mark is a character like any other or escapes the next one. What
is written for a literal or a quoted name is such a piece: it ends where it was written to end and comes back
as it was, under either setting. Pieces on lines of their own, which an engine may join, are read one by one. -/
namespace TypoSearch.Sql

namespace Scan

def Mode.closed? : Mode → Option (Char × Token)
  | .closing k read => some (k.quote, k.token read)
  | .closingEscaping read => some ('\'', .literal (String.ofList read))
  | _ => none

def opened (q : Quoting) (conforming : Bool) : List Char → Option (Mode × List Char)
  | '"' :: cs => some (.quoted .name [], cs)
  | '\'' :: cs => some (if q = .sparing && !conforming then .escaping [] else .quoted .literal [], cs)
  | c :: '\'' :: cs => if announces q [c] then some (.escaping [], cs) else none
  | _ => none

def piece (q : Quoting) (m : Mode) : List Char → Option (Token × List Char)
  | [] => m.closed?.map fun closed => (closed.2, [])
  | c :: cs =>
    match m.closed?.filter (·.1 != c) with
    | some (_, token) => some (token, c :: cs)
    | none => do
      let (_, next) ← step q m c
      piece q next cs

theorem beginGives {token : Token} {c ts next} (began : begin [token] c = some (ts, next)) : ts ≠ [] := by
  unfold begin at began
  repeat' split at began
  all_goals cases began
  all_goals simp

theorem closedGives {q m quote token c ts next} (closed : Mode.closed? m = some (quote, token))
    (other : quote ≠ c) (stepped : step q m c = some (ts, next)) : ts ≠ [] := by
  cases m <;> cases closed
  case closing k read => exact beginGives (by simpa [step, other.symm] using stepped)
  case closingEscaping read => exact beginGives (by simpa [step, other.symm] using stepped)

theorem pieceSilent {q m xs m'} (silent : run q m xs = some ([], m')) (ys : List Char) :
    piece q m (xs ++ ys) = piece q m' ys := by
  induction xs generalizing m with
  | nil =>
    cases Option.some.inj silent
    rfl
  | cons c cs ih =>
    simp only [run, bind, Option.bind_eq_some_iff] at silent
    obtain ⟨⟨ts, next⟩, stepped, ⟨us, last⟩, rest, ended⟩ := silent
    obtain ⟨nothing, rfl⟩ := Prod.mk.inj (Option.some.inj ended)
    obtain ⟨rfl, rfl⟩ := List.append_eq_nil_iff.mp nothing
    -- The step that ends a piece gives out its token, so a silent one does not.
    have unfinished : m.closed?.filter (·.1 != c) = none := by
      refine Option.filter_eq_none_iff.mpr fun closed found other => ?_
      exact closedGives found (by simpa using other) stepped rfl
    rw [List.cons_append, piece, unfinished, stepped]
    exact ih rest

theorem pieceClosed {m quote token} (closed : Mode.closed? m = some (quote, token)) (q : Quoting)
    {rest : List Char} (ends : rest.head? ≠ some quote) : piece q m rest = some (token, rest) := by
  cases rest with
  | nil => rw [piece, closed, Option.map_some]
  | cons c cs =>
    have other : (quote != c) = true := bne_iff_ne.mpr fun same => ends (by rw [same]; rfl)
    rw [piece, closed, Option.filter_some, if_pos other]

theorem bodyPiece (q : Quoting) (k : Kind) (cs : List Char) {rest : List Char}
    (ends : rest.head? ≠ some k.quote) :
    piece q (.quoted k []) (doubled k.quote cs ++ [k.quote] ++ rest) = some (k.token cs, rest) := by
  rw [pieceSilent (bodyRun q k cs), pieceClosed rfl q ends]

theorem escapedBodyPiece (cs : List Char) {rest : List Char} (ends : rest.head? ≠ some '\'') :
    piece .sparing (.escaping []) (doubled '\\' (doubled '\'' cs) ++ ['\''] ++ rest) =
      some (.literal (String.ofList cs), rest) := by
  rw [pieceSilent (escapedBodyRun cs), pieceClosed rfl .sparing ends]

end Scan

def quoted? (q : Quoting) (conforming : Bool) (cs : List Char) : Option (Token × List Char) := do
  let (m, cs) ← Scan.opened q conforming cs
  Scan.piece q m cs

theorem doubledAbsent {c : Char} {cs : List Char} (absent : c ∉ cs) : doubled c cs = cs := by
  induction cs with
  | nil => rfl
  | cons d ds ih =>
    simp only [List.mem_cons, not_or] at absent
    rw [doubledCons, if_neg (Ne.symm absent.1), ih absent.2]
    rfl

theorem doubledMembers (q : Char) (cs : List Char) {c : Char} : c ∈ doubled q cs ↔ c ∈ cs := by
  simp only [doubled, List.mem_flatMap]
  constructor
  · rintro ⟨d, member, inside⟩
    split at inside <;> simp_all
  · intro member
    exact ⟨c, member, by split <;> simp⟩

section
variable {rest : List Char}

theorem nameQuoted (q : Quoting) (conforming : Bool) (cs : List Char) (ends : rest.head? ≠ some '"') :
    quoted? q conforming (enclose '"' cs ++ rest) = some (.name (String.ofList cs), rest) :=
  Scan.bodyPiece q .name cs ends

theorem literalQuotedPlain {q : Quoting} {conforming : Bool} (ordinary : q = .plain ∨ conforming = true)
    (cs : List Char) (ends : rest.head? ≠ some '\'') :
    quoted? q conforming (enclose '\'' cs ++ rest) = some (.literal (String.ofList cs), rest) := by
  have opens : Scan.opened q conforming (enclose '\'' cs ++ rest) =
      some (.quoted .literal [], doubled '\'' cs ++ ['\''] ++ rest) := by
    rcases ordinary with rfl | rfl <;> simp [enclose, Scan.opened]
  rw [quoted?, opens]
  exact Scan.bodyPiece q .literal cs ends

theorem literalQuotedAbsent {cs : List Char} (absent : '\\' ∉ cs) (ends : rest.head? ≠ some '\'') :
    quoted? .sparing false (enclose '\'' cs ++ rest) = some (.literal (String.ofList cs), rest) := by
  -- Without backslashes to double, the body is what the other style would have written.
  have same : doubled '\\' (doubled '\'' cs) = doubled '\'' cs :=
    doubledAbsent fun member => absent ((doubledMembers '\'' cs).mp member)
  have opens : Scan.opened .sparing false (enclose '\'' cs ++ rest) =
      some (.escaping [], doubled '\\' (doubled '\'' cs) ++ ['\''] ++ rest) := by
    simp [enclose, Scan.opened, same]
  rw [quoted?, opens]
  exact Scan.escapedBodyPiece cs ends

theorem literalQuotedEscaping (conforming : Bool) (cs : List Char) (ends : rest.head? ≠ some '\'') :
    quoted? .sparing conforming ('E' :: '\'' :: doubled '\\' (doubled '\'' cs) ++ ['\''] ++ rest) =
      some (.literal (String.ofList cs), rest) := by
  have opens : Scan.opened .sparing conforming
      ('E' :: '\'' :: doubled '\\' (doubled '\'' cs) ++ ['\''] ++ rest) =
        some (.escaping [], doubled '\\' (doubled '\'' cs) ++ ['\''] ++ rest) := by
    simp [Scan.opened, Scan.announces]
  rw [quoted?, opens]
  exact Scan.escapedBodyPiece cs ends

theorem literalQuoted (q : Quoting) (conforming : Bool) (s : String) (ends : rest.head? ≠ some '\'') :
    quoted? q conforming ((q.literal s).toList ++ rest) = some (.literal s, rest) := by
  rw [Quoting.literal, String.toList_ofList, Quoting.literalChars.eq_def]
  cases q with
  | plain => simpa using literalQuotedPlain (.inl rfl) s.toList ends
  | sparing =>
    dsimp only
    split
    · simpa using literalQuotedEscaping conforming s.toList ends
    · rename_i none
      have absent : '\\' ∉ s.toList := by simpa using none
      cases conforming with
      | true => simpa using literalQuotedPlain (.inr rfl) s.toList ends
      | false => simpa using literalQuotedAbsent absent ends

end

theorem quotedKept (q : Quoting) (conforming : Bool) (s : String) (rest : List Char) :
    (rest.head? ≠ some '\'' →
      quoted? q conforming ((q.literal s).toList ++ rest) = some (.literal s, rest)) ∧
    (rest.head? ≠ some '"' →
      quoted? .plain conforming ((Quoting.plain.identifier s).toList ++ rest) = some (.name s, rest)) := by
  refine ⟨literalQuoted q conforming s, fun ends => ?_⟩
  rw [Quoting.identifier, String.toList_ofList, Quoting.identifierChars]
  simpa using nameQuoted .plain conforming s.toList ends

theorem quotedKeptRuns :
    (" 'or'".toList.head? ≠ some '\'' ∧ " 'or'".toList.head? ≠ some '"') ∧
    quoted? .sparing false ((Quoting.sparing.literal "'\\\\''\\").toList ++ " 'or'".toList) =
      some (.literal "'\\\\''\\", " 'or'".toList) ∧
    quoted? .plain true ((Quoting.plain.identifier "\"'\\\"").toList ++ " 'or'".toList) =
      some (.name "\"'\\\"", " 'or'".toList) :=
  ⟨⟨by decide, by decide⟩, (quotedKept .sparing false "'\\\\''\\" " 'or'".toList).1 (by decide),
    (quotedKept .plain true "\"'\\\"" " 'or'".toList).2 (by decide)⟩

end TypoSearch.Sql
