import VisualNovel.History

/-!
# Lines as documents

A line of the history log is written with its kind and text; the speaker and the step are left out
when there is none.
-/

namespace VisualNovel.HistoryEntry

/-- The fields of a line. -/
def fieldNames : List String := ["kind", "speaker", "text", "stepIndex"]

/-- The kinds by their names. -/
def kindNames : List (String × LineKind) := LineKind.all.map fun kind => (kind.name, kind)

/-- Reads a line. -/
def ofJson? (document : Json) : Option HistoryEntry := do
  let fields ← Json.recordFields? fieldNames document
  let kind ← fields.required? "kind" (Json.named? kindNames)
  let speaker ← fields.orDefault? "speaker" "" Json.text?
  let text ← fields.required? "text" Json.text?
  let step ← fields.optional? "stepIndex" Json.natural?
  some ⟨kind, speaker, text, step⟩

/-- The document of a line. -/
def toJson (line : HistoryEntry) : Json :=
  let speaker := if line.speaker.isEmpty then [] else [("speaker", Json.text line.speaker)]
  .object ([("kind", .text line.kind.name)] ++ speaker ++ [("text", .text line.text)] ++
    Json.optionalMember "stepIndex" Json.natural line.step)

end VisualNovel.HistoryEntry
