import VisualNovel.Interpreter.Screen
import VisualNovel.Story.Document

/-!
# What a host sees, as documents

A host in another process is told in documents what the story waits for, what has happened and what
is on screen. The document of a screen leaves out what is empty.
-/

namespace VisualNovel

open Json (Fields optionalMember)

namespace Status

/-- The document of a status: a name, or an object when the status has content. -/
def toJson : Status → Json
  | .notStarted => .text "not started"
  | .dialogue => .text "dialogue"
  | .titles autoResumeMs => .object [("titles", Json.ofOption Json.natural autoResumeMs)]
  | .input => .text "input"
  | .choice => .text "choice"
  | .completed => .text "completed"
  | .halted reason => .object [("halted", .text reason)]

end Status

namespace StoryEvent

/-- The document of an event: a name, or an object when the event has content. -/
def toJson : StoryEvent → Json
  | .completed => .text "completed"
  | .titleEffectEnd effect => .object [("effectEnd", .text effect)]
  | .audioPaused => .text "audioPaused"
  | .audioResumed => .text "audioResumed"
  | .charactersLoaded ids => .object [("loaded", .array (ids.map .text))]

end StoryEvent

namespace TitleCard

/-- The document of a title card. -/
def toJson (card : TitleCard) : Json :=
  .object [
    ("text", .text card.text),
    ("start", Json.ofOption Json.text card.effectStart),
    ("effect", Json.ofOption Json.text card.effect),
    ("end", Json.ofOption Json.text card.effectEnd),
    ("typewriter", .bool card.typewriter),
    ("ms", Json.ofOption Json.natural card.durationMs)]

end TitleCard

namespace InputPrompt

/-- The document of a question. -/
def toJson (prompt : InputPrompt) : Json :=
  .object [("text", .text prompt.text), ("variable", Json.ofOption Json.text prompt.path),
    ("initial", .text prompt.initial)]

end InputPrompt

namespace Screen

/-- The member for a text, unless it is empty. -/
def textMember (name content : String) : Fields :=
  if content.isEmpty then [] else [(name, .text content)]

/-- The document of a screen. -/
def toJson (screen : Screen) : Json :=
  .object (
    textMember "speaker" screen.speaker ++
    textMember "dialogue" screen.dialogue ++
    textMember "narration" screen.narration ++
    optionalMember "title" TitleCard.toJson screen.title ++
    (if screen.choices.isEmpty then []
      else [("choices", Json.array (screen.choices.map .text))]) ++
    optionalMember "input" InputPrompt.toJson screen.input ++
    (if screen.printed = 0 then [] else [("printed", Json.natural screen.printed)]))

end Screen

namespace Continuation

/-- The document of a continuation. -/
def toJson : Continuation → Json
  | .dialogueParts next => .object [("parts", .natural next)]
  | .choiceActions remaining =>
    .object [("actions", .array (remaining.map ChoiceAction.toJson))]
  | .interjection screen status =>
    .object [("interjection",
      .object [("status", status.toJson), ("pres", screen.toJson)])]

end Continuation

end VisualNovel
