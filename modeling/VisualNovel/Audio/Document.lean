import VisualNovel.Audio
import VisualNovel.Json.Fields

/-!
# Streams as documents

A stream is written with its channel, its asset and whether it repeats. The identifier is not part
of the document.
-/

namespace VisualNovel.AudioStream

/-- The fields of a stream. -/
def fieldNames : List String := ["type", "file", "loop"]

/-- The channels by their names. -/
def kindNames : List (String × StreamKind) := StreamKind.all.map fun kind => (kind.name, kind)

/-- Reads a stream; its identifier is empty. -/
def ofJson? (document : Json) : Option AudioStream := do
  let fields ← Json.recordFields? fieldNames document
  let kind ← fields.required? "type" (Json.named? kindNames)
  let file ← fields.required? "file" Json.text?
  let looping ← fields.required? "loop" Json.bool?
  some ⟨"", kind, file, looping⟩

/-- The document of a stream. -/
def toJson (stream : AudioStream) : Json :=
  .object [("type", .text stream.kind.name), ("file", .text stream.file),
    ("loop", .bool stream.looping)]

end VisualNovel.AudioStream
