import VisualNovel.Json.Fields
import VisualNovel.Json.Writer
import VisualNovel.Story.Unit

/-!
# Story units as documents

A step is an object whose member `type` names its kind; without that member it is an assignment. A
label that is no text becomes its compact document. Fields that are absent are left out of the
document, except the options of a choice and the texts of lines and cards.
-/

namespace VisualNovel

open Json (Fields optionalMember)

namespace AudioCue

/-- The fields of a cue. -/
def fieldNames : List String := ["file", "loop", "stream"]

/-- Reads a cue. -/
def ofJson? (document : Json) : Option AudioCue := do
  let fields ← Json.recordFields? fieldNames document
  let file ← fields.required? "file" Json.text?
  let looping ← fields.optional? "loop" Json.bool?
  let stream ← fields.optional? "stream" Json.text?
  some ⟨file, looping, stream⟩

/-- The members of a cue. -/
def toMembers (cue : AudioCue) : Fields :=
  ("file", .text cue.file) :: optionalMember "loop" Json.bool cue.looping ++
    optionalMember "stream" Json.text cue.stream

end AudioCue

namespace DialoguePart

/-- Reads a part of a line. -/
def ofJson? (document : Json) : Option DialoguePart := do
  let fields ← Json.recordFields? ["text", "variable"] document
  let text ← fields.orDefault? "text" "" Json.text?
  let assignment ← fields.optional? "variable" Json.text?
  some ⟨text, assignment⟩

/-- The document of a part of a line. -/
def toJson (part : DialoguePart) : Json :=
  .object (("text", .text part.text) :: optionalMember "variable" Json.text part.assignment)

end DialoguePart

namespace Dialogue

/-- Reads a line. -/
def ofJson? (document : Json) : Option Dialogue := do
  let fields ← Json.recordFields? ["character", "text", "variable", "steps"] document
  let character ← fields.optional? "character" Json.text?
  let text ← fields.orDefault? "text" "" Json.text?
  let assignment ← fields.optional? "variable" Json.text?
  let parts ← fields.orDefault? "steps" [] (Json.listOf? DialoguePart.ofJson?)
  some ⟨character, text, assignment, parts⟩

/-- The members of a line. -/
def toMembers (line : Dialogue) : Fields :=
  let parts : Fields :=
    if line.parts.isEmpty then [] else [("steps", .array (line.parts.map DialoguePart.toJson))]
  optionalMember "character" Json.text line.character ++ [("text", .text line.text)] ++
    optionalMember "variable" Json.text line.assignment ++ parts

end Dialogue

namespace Titles

/-- The fields of a title card. -/
def fieldNames : List String :=
  ["text", "duration", "effect-start", "effect", "effect-end", "typewriter", "variable"]

/-- Reads a title card. -/
def ofJson? (document : Json) : Option Titles := do
  let fields ← Json.recordFields? fieldNames document
  let text ← fields.orDefault? "text" "" Json.text?
  let duration ← fields.optional? "duration" Json.float?
  let effectStart ← fields.optional? "effect-start" Json.text?
  let effect ← fields.optional? "effect" Json.text?
  let effectEnd ← fields.optional? "effect-end" Json.text?
  let typewriter ← fields.orDefault? "typewriter" false Json.bool?
  let assignment ← fields.optional? "variable" Json.text?
  some ⟨text, duration, effectStart, effect, effectEnd, typewriter, assignment⟩

/-- The members of a title card. -/
def toMembers (card : Titles) : Fields :=
  [("text", .text card.text)] ++ optionalMember "duration" Json.real card.duration ++
    optionalMember "effect-start" Json.text card.effectStart ++
    optionalMember "effect" Json.text card.effect ++
    optionalMember "effect-end" Json.text card.effectEnd ++
    [("typewriter", .bool card.typewriter)] ++
    optionalMember "variable" Json.text card.assignment

end Titles

namespace ChoiceAction

/-- The kinds of actions in the order of their positions. -/
def kindNames : List String := ["dialogue", "goto", "show", "hide"]

/-- Reads the fields of an action of a known kind. -/
def ofKind? (kind : String) (document : Json) : Option ChoiceAction := do
  match kind with
  | "dialogue" =>
    let fields ← Json.recordFields? ["character", "text"] document
    let character ← fields.optional? "character" Json.text?
    let text ← fields.orDefault? "text" "" Json.text?
    some (.dialogue character text)
  | "goto" =>
    let fields ← Json.recordFields? ["target"] document
    (fields.required? "target" Json.text?).map .goto
  | "show" =>
    let fields ← Json.recordFields? ["character"] document
    (fields.required? "character" Json.text?).map .show
  | "hide" =>
    let fields ← Json.recordFields? ["character"] document
    (fields.required? "character" Json.text?).map .hide
  | _ => none

/-- Reads an action. -/
def ofJson? (document : Json) : Option ChoiceAction := do
  let (kind, rest) ← Json.tagged? kindNames true document
  ofKind? kind rest

/-- The document of an action. -/
def toJson : ChoiceAction → Json
  | .dialogue character text =>
    .object ([("type", .text "dialogue")] ++ optionalMember "character" Json.text character ++
      [("text", .text text)])
  | .goto target => .object [("type", .text "goto"), ("target", .text target)]
  | .show character => .object [("type", .text "show"), ("character", .text character)]
  | .hide character => .object [("type", .text "hide"), ("character", .text character)]

end ChoiceAction

namespace ChoiceOption

/-- Reads an option. -/
def ofJson? (document : Json) : Option ChoiceOption := do
  let fields ← Json.recordFields? ["text", "actions"] document
  let text ← fields.orDefault? "text" "" Json.text?
  let actions ← fields.optional? "actions" (Json.listOf? ChoiceAction.ofJson?)
  some ⟨text, actions⟩

/-- The document of an option. -/
def toJson (option : ChoiceOption) : Json :=
  let encode (actions : List ChoiceAction) : Json := .array (actions.map ChoiceAction.toJson)
  .object (("text", .text option.text) :: optionalMember "actions" encode option.actions)

end ChoiceOption

namespace Choice

/-- Reads a choice. -/
def ofJson? (document : Json) : Option Choice := do
  let fields ← Json.recordFields? ["text", "speaker", "options"] document
  let text ← fields.optional? "text" Json.text?
  let speaker ← fields.optional? "speaker" Json.text?
  let options ← fields.orDefault? "options" [] (Json.listOf? ChoiceOption.ofJson?)
  some ⟨text, speaker, options⟩

/-- The members of a choice. -/
def toMembers (choice : Choice) : Fields :=
  optionalMember "text" Json.text choice.text ++
    optionalMember "speaker" Json.text choice.speaker ++
    [("options", .array (choice.options.map ChoiceOption.toJson))]

end Choice

namespace StepKind

/-- The kinds that a step names, in the order of their positions. -/
def kindNames : List String :=
  ["scene", "show", "hide", "sound", "voice", "music", "stop-stream", "stop-all-streams",
    "dialogue", "titles", "inputtext", "choice", "goto", "continue", "end"]

/-- Reads the fields of a step of a known kind. -/
def ofKind? (kind : String) (document : Json) : Option StepKind := do
  match kind with
  | "scene" =>
    let fields ← Json.recordFields? ["scene"] document
    (fields.optional? "scene" Json.text?).map .scene
  | "show" =>
    let fields ← Json.recordFields? ["character"] document
    (fields.required? "character" Json.text?).map .show
  | "hide" =>
    let fields ← Json.recordFields? ["character"] document
    (fields.required? "character" Json.text?).map .hide
  | "sound" => (AudioCue.ofJson? document).map (.play .sound)
  | "voice" => (AudioCue.ofJson? document).map (.play .voice)
  | "music" => (AudioCue.ofJson? document).map (.play .music)
  | "stop-stream" =>
    let fields ← Json.recordFields? ["stream"] document
    (fields.required? "stream" Json.text?).map .stopStream
  | "stop-all-streams" => (Json.recordFields? [] document).map fun _ => .stopAllStreams
  | "dialogue" => (Dialogue.ofJson? document).map .dialogue
  | "titles" => (Titles.ofJson? document).map .titles
  | "inputtext" =>
    let fields ← Json.recordFields? ["variable", "text"] document
    let path ← fields.optional? "variable" Json.text?
    let text ← fields.optional? "text" Json.text?
    some (.input path text)
  | "choice" => (Choice.ofJson? document).map .choice
  | "goto" =>
    let fields ← Json.recordFields? ["target"] document
    (fields.required? "target" Json.text?).map .goto
  | "continue" => (Json.recordFields? [] document).map fun _ => .back
  | "end" => (Json.recordFields? [] document).map fun _ => .finish
  | _ => none

/-- The members of a step, the kind first. An assignment has no kind. -/
def toMembers (kind : StepKind) : Fields :=
  let tag : Fields := [("type", .text kind.name)]
  match kind with
  | .scene id => tag ++ optionalMember "scene" Json.text id
  | .show character => tag ++ [("character", .text character)]
  | .hide character => tag ++ [("character", .text character)]
  | .play _ cue => tag ++ cue.toMembers
  | .stopStream stream => tag ++ [("stream", .text stream)]
  | .stopAllStreams => tag
  | .dialogue line => tag ++ line.toMembers
  | .titles card => tag ++ card.toMembers
  | .input path text =>
    tag ++ optionalMember "variable" Json.text path ++ optionalMember "text" Json.text text
  | .choice offer => tag ++ offer.toMembers
  | .goto target => tag ++ [("target", .text target)]
  | .back => tag
  | .finish => tag
  | .assign expression => [("variable", .text expression)]

end StepKind

namespace Step

/-- The label that a document gives. -/
def labelOf : Option Json → Option String
  | none => none
  | some .null => none
  | some (.text label) => some label
  | some document => some document.compact

/-- Reads the kind of a step. An object with a member `type` is never an assignment. -/
def kindOf? (members : Fields) : Option StepKind :=
  if (members.lookup "type").isSome then do
    let (kind, rest) ← Json.tagged? StepKind.kindNames true (.object members)
    StepKind.ofKind? kind rest
  else (members.lookup "variable").bind fun document => document.text?.map .assign

/-- Reads a step. -/
def ofJson? (document : Json) : Option Step := do
  match ← document.canonical? with
  | .object members =>
    let kind ← kindOf? members
    some ⟨labelOf (members.lookup "id"), kind⟩
  | _ => none

/-- The document of a step. -/
def toJson (step : Step) : Json :=
  .object (optionalMember "id" Json.text step.label ++ step.kind.toMembers)

end Step

namespace StoryUnit

/-- Reads a unit. -/
def ofJson? (document : Json) : Option StoryUnit := do
  let fields ← Json.recordFields? ["id", "steps"] document
  let id ← fields.orDefault? "id" "" Json.text?
  let steps ← fields.orDefault? "steps" [] (Json.listOf? Step.ofJson?)
  some ⟨id, steps⟩

/-- The document of a unit. -/
def toJson (story : StoryUnit) : Json :=
  .object [("id", .text story.id), ("steps", .array (story.steps.map Step.toJson))]

end StoryUnit

namespace CallFrame

/-- Reads a position to return to. -/
def ofJson? (document : Json) : Option CallFrame := do
  let fields ← Json.recordFields? ["storyId", "stepIndex"] document
  let unitId ← fields.required? "storyId" Json.text?
  let step ← fields.required? "stepIndex" Json.natural?
  some ⟨unitId, step⟩

/-- The document of a position to return to. -/
def toJson (frame : CallFrame) : Json :=
  .object [("storyId", .text frame.unitId), ("stepIndex", .natural frame.step)]

end CallFrame

end VisualNovel
