import VisualNovel.Character
import VisualNovel.Disk
import VisualNovel.Story.Unit

/-!
# Content

Content is what authors write: story units, characters and scenes, each loaded by its identifier. A
source of content is a record of its loaders. A library is a source that holds everything in
memory.
-/

namespace VisualNovel

/-- What is loaded by an identifier. -/
inductive ContentKind where
  /-- A story unit. -/
  | storyUnit
  /-- A character. -/
  | character
  /-- A scene. -/
  | scene
  deriving DecidableEq

/-- Why content could not be loaded. -/
inductive ContentError where
  /-- There is nothing with the identifier. -/
  | notFound (kind : ContentKind) (id : String)
  /-- The document does not have the form of its kind. -/
  | malformed (kind : ContentKind) (id : String)
  /-- A file could not be read. -/
  | unreadable (path : String) (cause : DiskError)
  deriving DecidableEq

/-- A backdrop; everything but the identifier is passed on to the host. -/
structure Scene where
  /-- The identifier. -/
  id : String
  /-- The other fields. -/
  fields : Dict Value

/-- A source of content. -/
structure Content where
  /-- Loads a story unit. -/
  storyUnit : String → Except ContentError StoryUnit
  /-- Loads a character. -/
  character : String → Except ContentError CharacterRecord
  /-- Loads a scene. -/
  scene : String → Except ContentError Scene
  /-- The identifiers of all story units in ascending order. -/
  storyUnitIds : Except ContentError (List String)

namespace ContentKind

/-- The name of the kind. -/
def name : ContentKind → String
  | .storyUnit => "story unit"
  | .character => "character"
  | .scene => "scene"

end ContentKind

namespace ContentError

/-- The wording of an error. -/
def message : ContentError → String
  | .notFound kind id => kind.name ++ " not found: \"" ++ id ++ "\""
  | .malformed kind id =>
    "malformed " ++ kind.name ++ " \"" ++ id ++ "\": the document does not have the expected form"
  | .unreadable path cause => "failed to read " ++ path ++ ": " ++ cause.message

/-- The kind of content that an error is about. -/
def kind? : ContentError → Option ContentKind
  | .notFound kind _ => some kind
  | .malformed kind _ => some kind
  | .unreadable _ _ => none

end ContentError

/-- Content that is held in memory. -/
structure Library where
  /-- The story units, by identifier. -/
  units : Dict StoryUnit
  /-- The characters, by identifier. -/
  characters : Dict CharacterRecord
  /-- The scenes, by identifier. -/
  scenes : Dict Scene

namespace Library

/-- The library without content. -/
def empty : Library := ⟨[], [], []⟩

/-- Adds a unit under its identifier. -/
def addUnit (library : Library) (story : StoryUnit) : Library :=
  { library with units := Dict.insert story.id story library.units }

/-- Adds a character. -/
def addCharacter (library : Library) (id : String) (data : CharacterRecord) : Library :=
  { library with characters := Dict.insert id data library.characters }

/-- Adds a scene under its identifier. -/
def addScene (library : Library) (scene : Scene) : Library :=
  { library with scenes := Dict.insert scene.id scene library.scenes }

/-- Looks an identifier up. -/
def load {α : Type} (kind : ContentKind) (entries : Dict α) (id : String) :
    Except ContentError α :=
  match Dict.get? entries id with
  | some found => .ok found
  | none => .error (.notFound kind id)

/-- The library as a source of content. -/
def toContent (library : Library) : Content where
  storyUnit := load .storyUnit library.units
  character := load .character library.characters
  scene := load .scene library.scenes
  storyUnitIds := .ok (Dict.keys library.units)

end Library

end VisualNovel
