import VisualNovel.Json.Fields
import VisualNovel.Json.Reader
import VisualNovel.Session.Error

/-!
# Configurations

A configuration says where a game starts, who takes part, and what limits hold. It may stand in the
file `novel.json` of a content directory; every field may be left out.
-/

namespace VisualNovel

open Json (Fields)

/-- The configuration of a session. -/
structure Configuration where
  /-- The unit that a new game starts in. -/
  startUnit : String
  /-- The characters that are loaded when a game starts. -/
  roster : List String
  /-- The greatest number of lines in the log. -/
  historyLimit : Nat
  /-- The greatest number of steps without a pause. -/
  maxAutoSteps : Nat
  /-- Whether rules are evaluated. -/
  rulesEnabled : Bool
  deriving DecidableEq

namespace Configuration

/-- The configuration when none is given. -/
def standard : Configuration where
  startUnit := "start"
  roster := ["mc"]
  historyLimit := StorySettings.standard.historyLimit
  maxAutoSteps := StorySettings.standard.maxAutoSteps
  rulesEnabled := true

/-- The configuration with another limit of the log, of at least one. -/
def withHistoryLimit (configuration : Configuration) (limit : Nat) : Configuration :=
  { configuration with historyLimit := max limit 1 }

/-- The configuration with another limit of steps, of at least one. -/
def withMaxAutoSteps (configuration : Configuration) (limit : Nat) : Configuration :=
  { configuration with maxAutoSteps := max limit 1 }

/-- The limits of the story; a limit that was read as zero counts as one. -/
def storySettings (configuration : Configuration) : StorySettings :=
  (StorySettings.standard.withHistoryLimit configuration.historyLimit).withMaxAutoSteps
    configuration.maxAutoSteps

/-- The fields of a configuration. -/
def fieldNames : List String :=
  ["startUnit", "characters", "historyLimit", "maxAutoSteps", "rulesEnabled"]

/-- Reads a configuration. -/
def ofJson? (document : Json) : Option Configuration := do
  let fields ← Json.recordFields? fieldNames document
  let startUnit ← fields.orDefault? "startUnit" standard.startUnit Json.text?
  let roster ← fields.orDefault? "characters" standard.roster (Json.listOf? Json.text?)
  let historyLimit ← fields.orDefault? "historyLimit" standard.historyLimit Json.natural?
  let maxAutoSteps ← fields.orDefault? "maxAutoSteps" standard.maxAutoSteps Json.natural?
  let rulesEnabled ← fields.orDefault? "rulesEnabled" standard.rulesEnabled Json.bool?
  some ⟨startUnit, roster, historyLimit, maxAutoSteps, rulesEnabled⟩

/-- The document of a configuration. -/
def toJson (configuration : Configuration) : Json :=
  .object [
    ("startUnit", .text configuration.startUnit),
    ("characters", .array (configuration.roster.map .text)),
    ("historyLimit", .natural configuration.historyLimit),
    ("maxAutoSteps", .natural configuration.maxAutoSteps),
    ("rulesEnabled", .bool configuration.rulesEnabled)]

/-- The name of the file in a content directory. -/
def fileName : String := "novel.json"

/-- Reads the configuration of a content directory; without a file it is the standard one. -/
def load (disk : Disk) (directory : String) : Except SessionError Configuration :=
  let path := Disk.join directory fileName
  match disk.readText path with
  | .error .notFound => .ok standard
  | .error cause => .error (.unreadable path cause)
  | .ok content =>
    match (Json.read? content).bind ofJson? with
    | some configuration => .ok configuration
    | none => .error (.configuration path)

end Configuration

end VisualNovel
