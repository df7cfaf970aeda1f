import VisualNovel.Content.Document
import VisualNovel.Json.Reader
import VisualNovel.Story.Document

/-!
# Content in a directory

A directory holds story units under `story`, characters under `characters` and scenes under
`scenes`, as documents named by identifiers. A character is a directory of three documents or a
single one; a scene has a document of its own or stands in a common list. An identifier that leads
out of its directory names nothing.
-/

namespace VisualNovel

/-- A directory of content on a disk. -/
structure ContentDirectory where
  /-- The disk. -/
  disk : Disk
  /-- The path of the directory. -/
  root : String

namespace ContentDirectory

/-- Whether a path stays below the directory that it is joined to. -/
def staysInside (path : String) : Bool :=
  !path.startsWith "/" && !(Disk.components path).contains ".."

/-- The path of the entry for an identifier in one of the directories; none when it leads out. -/
def entryPath (directory : ContentDirectory) (kind : ContentKind) (id place name : String) :
    Except ContentError String :=
  if id.isEmpty || !staysInside name then .error (.notFound kind id)
  else .ok (Disk.join directory.root (Disk.join place name))

/-- Reads a document when its file is there. -/
def readOptional {α : Type} (directory : ContentDirectory) (kind : ContentKind) (id path : String)
    (decode : Json → Option α) : Except ContentError (Option α) :=
  match directory.disk.readText path with
  | .error .notFound => .ok none
  | .error cause => .error (.unreadable path cause)
  | .ok content =>
    match (Json.read? content).bind decode with
    | some value => .ok (some value)
    | none => .error (.malformed kind id)

/-- Reads a document whose file has to be there. -/
def readDocument {α : Type} (directory : ContentDirectory) (kind : ContentKind) (id path : String)
    (decode : Json → Option α) : Except ContentError α := do
  match ← directory.readOptional kind id path decode with
  | some value => .ok value
  | none => .error (.notFound kind id)

/-- Loads a story unit; one without an identifier gets the one it was loaded by. -/
def storyUnit (directory : ContentDirectory) (id : String) : Except ContentError StoryUnit := do
  let path ← directory.entryPath .storyUnit id "story" (id ++ ".json")
  let story ← directory.readDocument .storyUnit id path StoryUnit.ofJson?
  .ok (if story.id.isEmpty then { story with id } else story)

/-- Loads a character from its directory, or else from a single document. -/
def character (directory : ContentDirectory) (id : String) :
    Except ContentError CharacterRecord := do
  let place ← directory.entryPath .character id "characters" id
  let valuesPath := Disk.join place "values.json"
  if directory.disk.isFile valuesPath then
    let fields ← directory.readDocument .character id valuesPath Value.mapOfJson?
    let sprites ←
      directory.readOptional .character id (Disk.join place "body.json") Value.ofJson?
    let equipment ← directory.readOptional .character id (Disk.join place "equipment.json")
      (Json.listOf? Value.ofJson?)
    .ok ⟨fields, sprites.getD .null, equipment.getD []⟩
  else
    let path ← directory.entryPath .character id "characters" (id ++ ".json")
    (directory.readDocument .character id path Value.mapOfJson?).map CharacterRecord.ofSingle

/-- Loads a scene from its own document, or else from the common list. -/
def scene (directory : ContentDirectory) (id : String) : Except ContentError Scene := do
  let path ← directory.entryPath .scene id "scenes" (id ++ ".json")
  match ← directory.readOptional .scene id path Scene.ofJson? with
  | some scene => .ok (if scene.id.isEmpty then { scene with id } else scene)
  | none =>
    let listPath := Disk.join (Disk.join directory.root "scenes") "scenes.json"
    let scenes ← directory.readOptional .scene id listPath Scene.listOfJson?
    match (scenes.getD []).find? fun scene => scene.id = id with
    | some scene => .ok scene
    | none => .error (.notFound .scene id)

mutual

/-- The identifiers of the units below a node. The names lead from the story directory to it. -/
def unitIds (names : List String) : DiskNode → List String
  | .directory entries => unitIdsOfEntries names entries
  | .file _ =>
    match names.reverse with
    | [] => []
    | name :: parents =>
      match Disk.splitExtension name with
      | (stem, some "json") =>
        [String.intercalate "/" ((parents.reverse ++ [stem]).filter fun name => name ≠ ".")]
      | _ => []

/-- The identifiers of the units below the entries of a directory. -/
def unitIdsOfEntries (names : List String) : List (String × DiskNode) → List String
  | [] => []
  | (name, node) :: entries => unitIds (names ++ [name]) node ++ unitIdsOfEntries names entries

end

/-- The identifiers of all story units in ascending order. -/
def storyUnitIds (directory : ContentDirectory) : List String :=
  match directory.disk.entries (Disk.join directory.root "story") with
  | .ok entries =>
    (unitIdsOfEntries [] entries).mergeSort fun left right => decide (left ≤ right)
  | .error _ => []

/-- The directory as a source of content. -/
def toContent (directory : ContentDirectory) : Content where
  storyUnit := directory.storyUnit
  character := directory.character
  scene := directory.scene
  storyUnitIds := .ok directory.storyUnitIds

end ContentDirectory

end VisualNovel
