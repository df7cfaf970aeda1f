import VisualNovel.Content.Basic
import VisualNovel.Json.Fields

/-!
# Scenes as documents

A scene is an object. Its member `id` is the identifier, and all other members are passed on as
they are.
-/

namespace VisualNovel.Scene

/-- Reads a scene. -/
def ofJson? : Json → Option Scene
  | .object members => do
    let known ← Json.knownMembers? ["id"] members
    let id ← known.orDefault? "id" "" Json.text?
    let entries ← Value.entriesOfJson? (members.filter fun member => member.1 ≠ "id")
    some ⟨id, Dict.ofPairs entries⟩
  | _ => none

/-- The document of a scene. -/
def toJson (scene : Scene) : Json :=
  .object (("id", .text scene.id) :: Value.entriesToJson scene.fields)

/-- Reads a list of scenes. -/
def listOfJson? (document : Json) : Option (List Scene) := do
  let fields ← Json.recordFields? ["scenes"] document
  fields.orDefault? "scenes" [] (Json.listOf? ofJson?)

end VisualNovel.Scene
