import TypoSearch.Proofs.Json.Written
import TypoSearch.Report

/-! A report in JSON loses nothing: it is a well-formed document, and reading it gives back the query, the number
of rows and the rows. -/
namespace TypoSearch.Report
open Json (Document Portable documentRead documentClear indentedWritten)

def saidFields (query : Option String) (rows : List Row) : List (String × Value) :=
  (query.map fun q => ("query", Value.text q)).toList ++
    [("count", .int rows.length), ("rows", .list (rows.map .dict))]

def said (query : Option String) (rows : List Row) : Value :=
  .dict ((saidFields query rows).map fun f => (.text f.1, f.2))

theorem payloadSaid (query : Option String) (rows : List Row) : payload (query.map .text) rows = said query rows := by
  cases query <;> rfl

theorem saidPortable (query : Option String) {rows : List Row}
    (portable : ∀ row ∈ rows, Portable (.dict row)) : Portable (said query rows) := by
  have inner : Portable (.list (rows.map .dict)) := .list fun x member => by
    obtain ⟨row, given, rfl⟩ := List.mem_map.mp member
    exact portable row given
  have names : ((saidFields query rows).map (·.1)).Nodup := by cases query <;> simp [saidFields]
  refine .dict names fun f member => ?_
  rcases List.mem_append.mp member with asked | body
  · obtain ⟨q, _, rfl⟩ : ∃ q, query = some q ∧ f = ("query", .text q) := by
      cases query <;> simp_all
    exact .text q
  · rcases List.mem_cons.mp body with rfl | last
    · exact .int _
    · obtain rfl := List.mem_singleton.mp last
      exact inner

theorem jsonLossless (query : Option String) {rows : List Row} (portable : ∀ row ∈ rows, Portable (.dict row)) :
    Document (said query rows) (json (query.map .text) rows) ∧
      Json.read? (json (query.map .text) rows) = some (said query rows) ∧
      ∀ v, Document v (json (query.map .text) rows) → v = said query rows := by
  have document : Document (said query rows) (json (query.map .text) rows) := by
    rw [json, payloadSaid]
    exact indentedWritten (saidPortable query portable)
  exact ⟨document, documentRead document, fun v other => documentClear other document⟩

def nestedRow : List (String × Value) :=
  [("a \"b\" \\", .text "tab\t, bell\x07, é"), ("", .int (-120)),
   ("of", .list [.null, .bool true, .list [], .dict [], .text ""])]

theorem jsonLosslessNested : Json.read? (json (some (.text "\"q\"\n"))
    [nestedRow.map fun f => (.text f.1, f.2), []]) =
      some (.dict [(.text "query", .text "\"q\"\n"), (.text "count", .int 2),
        (.text "rows", .list [.dict (nestedRow.map fun f => (.text f.1, f.2)), .dict []])]) := by
  have empty : Portable (.dict []) := @Portable.dict [] .nil (by simp)
  have inner : ∀ x ∈ [Value.null, .bool true, .list [], .dict [], .text ""], Portable x := by
    simp only [List.forall_mem_cons]
    exact ⟨.null, .bool true, .list (by simp), empty, .text "", by simp⟩
  have values : ∀ f ∈ nestedRow, Portable f.2 := by
    simp only [nestedRow, List.forall_mem_cons]
    exact ⟨.text _, .int _, .list inner, by simp⟩
  have portable : ∀ row ∈ [nestedRow.map fun f => (Key.text f.1, f.2), []], Portable (.dict row) := by
    simp only [List.forall_mem_cons]
    exact ⟨.dict (by simp [nestedRow]) values, empty, by simp⟩
  exact (jsonLossless (some "\"q\"\n") portable).2.1

end TypoSearch.Report
