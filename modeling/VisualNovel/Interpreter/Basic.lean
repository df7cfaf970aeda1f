import VisualNovel.Content.Basic
import VisualNovel.History
import VisualNovel.Interpreter.Screen
import VisualNovel.State.Assignment
import VisualNovel.State.Placeholder

/-!
# The interpreter

The interpreter holds a running story: where it stands, the state of the game, what is on screen
and heard, and what is left to do. An operation gives the interpreter after it together with its
result, also when it fails.
-/

namespace VisualNovel

/-- The limits of a story. -/
structure StorySettings where
  /-- The greatest number of lines in the log. -/
  historyLimit : Nat
  /-- The greatest number of steps without a pause. -/
  maxAutoSteps : Nat
  deriving DecidableEq

namespace StorySettings

/-- The limits when none are given. -/
def standard : StorySettings := ⟨History.defaultLimit, 10000⟩

/-- The settings with another limit of the log, of at least one. -/
def withHistoryLimit (settings : StorySettings) (limit : Nat) : StorySettings :=
  { settings with historyLimit := max limit 1 }

/-- The settings with another limit of steps, of at least one. -/
def withMaxAutoSteps (settings : StorySettings) (limit : Nat) : StorySettings :=
  { settings with maxAutoSteps := max limit 1 }

end StorySettings

/-- Why an operation of the interpreter failed. -/
inductive StoryError where
  /-- Content could not be loaded. -/
  | content (cause : ContentError)
  /-- A step could not load content. -/
  | step (unitId : String) (step : Nat) (cause : ContentError)
  /-- Too many steps ran without a pause. -/
  | stepLimit (limit : Nat)
  /-- There is no such option. -/
  | invalidChoice (index : Nat)
  /-- No choice is on screen. -/
  | noPendingChoice
  /-- No question is on screen. -/
  | noPendingInput
  /-- No story was started. -/
  | notStarted
  deriving DecidableEq

namespace StoryError

/-- The wording of an error. -/
def message : StoryError → String
  | .content cause => cause.message
  | .step unitId position cause =>
    "step " ++ toString position ++ " of \"" ++ unitId ++ "\" failed: " ++ cause.message
  | .stepLimit limit =>
    "more than " ++ toString limit ++ " steps ran without waiting for input"
  | .invalidChoice index => "invalid choice: " ++ toString index
  | .noPendingChoice => "no choice is pending"
  | .noPendingInput => "no text input is pending"
  | .notStarted => "no story has been started"

end StoryError

/-- A running story. -/
structure Interpreter where
  /-- Where units, characters and scenes come from. -/
  content : Content
  /-- The limits. -/
  settings : StorySettings
  /-- The units that were loaded. -/
  units : Dict StoryUnit
  /-- The current unit. -/
  story : Option StoryUnit
  /-- The position of the current step. -/
  step : Nat
  /-- The positions to return to, the innermost first. -/
  callStack : List CallFrame
  /-- The state of the game. -/
  state : StateTree
  /-- The current scene. -/
  scene : Option Scene
  /-- The characters that are shown, in order. -/
  visible : List String
  /-- What is on screen. -/
  screen : Screen
  /-- The audio streams. -/
  audio : AudioRegistry
  /-- The log of lines. -/
  history : History
  /-- What is left to do, the innermost first. -/
  continuations : List Continuation
  /-- The timer of the title card. -/
  timer : Option TitleTimer
  /-- Whether an effect at the end of a card has to be acknowledged. -/
  effectPending : Bool
  /-- The number of the next timer. -/
  nextToken : Nat
  /-- Whether steps are passed again after a restore. -/
  restoring : Bool
  /-- The number of parts that were shown before a restore. -/
  restoreParts : Nat
  /-- What the story waits for. -/
  status : Status
  /-- What happened since the events were last taken, oldest first. -/
  events : List StoryEvent
  /-- The present time. -/
  clock : Instant

/-- The result of an operation and the interpreter after it. -/
structure Outcome where
  /-- The status, or why the operation failed. -/
  result : Except StoryError Status
  /-- The interpreter after the operation. -/
  after : Interpreter

namespace Interpreter

/-- An interpreter before any story. -/
def new (content : Content) (settings : StorySettings) : Interpreter where
  content := content
  settings := settings
  units := []
  story := none
  step := 0
  callStack := []
  state := .empty
  scene := none
  visible := []
  screen := .blank
  audio := .empty
  history := .new settings.historyLimit
  continuations := []
  timer := none
  effectPending := false
  nextToken := 1
  restoring := false
  restoreParts := 0
  status := .notStarted
  events := []
  clock := 0

/-- The identifier of the current unit. -/
def unitId? (interpreter : Interpreter) : Option String :=
  interpreter.story.map StoryUnit.id

/-- The current step. -/
def currentStep? (interpreter : Interpreter) : Option Step :=
  interpreter.story.bind fun story => story.step? interpreter.step

/-- The operation ends with a status and changes nothing more. -/
def succeed (interpreter : Interpreter) (status : Status) : Outcome :=
  ⟨.ok status, interpreter⟩

/-- The operation ends with the current status. -/
def stay (interpreter : Interpreter) : Outcome :=
  interpreter.succeed interpreter.status

/-- The operation is refused and changes nothing. -/
def refuse (interpreter : Interpreter) (error : StoryError) : Outcome :=
  ⟨.error error, interpreter⟩

/-- Begins to wait. -/
def wait (interpreter : Interpreter) (status : Status) : Outcome :=
  { interpreter with status }.succeed status

/-- Adds an event. -/
def emit (interpreter : Interpreter) (event : StoryEvent) : Interpreter :=
  { interpreter with events := interpreter.events ++ [event] }

/-- The interpreter without waiting events. -/
def withoutEvents (interpreter : Interpreter) : Interpreter :=
  { interpreter with events := [] }

/-- Forgets the timer and the awaited effect. -/
def clearTimer (interpreter : Interpreter) : Interpreter :=
  { interpreter with timer := none, effectPending := false }

/-- Empties the screen. -/
def clearScreen (interpreter : Interpreter) : Interpreter :=
  { interpreter with screen := .blank }

/-- Empties the screen and forgets the timer. -/
def clearDisplay (interpreter : Interpreter) : Interpreter :=
  interpreter.clearScreen.clearTimer

/-- Finishes the story. The event is added unless the story was over before. -/
def complete (interpreter : Interpreter) : Outcome :=
  let announced :=
    if interpreter.status = .completed then interpreter else interpreter.emit .completed
  { announced.clearTimer with continuations := [], restoring := false }.wait .completed

/-- Halts with an error. -/
def halt (interpreter : Interpreter) (error : StoryError) : Outcome :=
  ⟨.error error, { interpreter with status := .halted error.message }⟩

/-- Halts because the current step could not load content. -/
def haltAtStep (interpreter : Interpreter) (cause : ContentError) : Outcome :=
  interpreter.halt (.step (interpreter.unitId?.getD "") interpreter.step cause)

/-- Loads a unit under an identifier, once. -/
def fetchUnit (interpreter : Interpreter) (id : String) :
    Except ContentError StoryUnit × Interpreter :=
  match Dict.get? interpreter.units id with
  | some story => (.ok story, interpreter)
  | none =>
    match interpreter.content.storyUnit id with
    | .error cause => (.error cause, interpreter)
    | .ok loaded =>
      let story := { loaded with id }
      (.ok story, { interpreter with units := Dict.insert id story interpreter.units })

/-- The characters that are shown and in play. -/
def dropAbsent (interpreter : Interpreter) : Interpreter :=
  { interpreter with
    visible := interpreter.visible.filter fun id => (interpreter.state.character? id).isSome }

/-- Loads characters one by one. A character that does not exist is passed over, and any other
failure ends the loading. -/
def loadEach : List String → Interpreter → Except ContentError (List String) × Interpreter
  | [], interpreter => (.ok [], interpreter)
  | id :: ids, interpreter =>
    match interpreter.content.character id with
    | .ok data =>
      let state := interpreter.state.insertCharacter (.ofRecord id data)
      match loadEach ids { interpreter with state } with
      | (loaded, after) => (loaded.map (id :: ·), after)
    | .error (.notFound _ _) => loadEach ids interpreter
    | .error cause => (.error cause, interpreter)

/-- Loads characters into the state and tells which of them exist. -/
def loadCharacters (interpreter : Interpreter) (ids : List String) :
    Except StoryError (List String) × Interpreter :=
  match loadEach ids interpreter with
  | (.error cause, after) => (.error (.content cause), after)
  | (.ok loaded, after) => (.ok loaded, after.dropAbsent.emit (.charactersLoaded loaded))

/-- Shows a character in play, after those that are shown. -/
def showCharacter (interpreter : Interpreter) (id : String) : Interpreter :=
  if (interpreter.state.character? id).isSome && !interpreter.visible.contains id then
    { interpreter with visible := interpreter.visible ++ [id] }
  else interpreter

/-- Hides a character. -/
def hideCharacter (interpreter : Interpreter) (id : String) : Interpreter :=
  { interpreter with visible := interpreter.visible.filter fun other => other ≠ id }

/-- The name of a character for display, or else its identifier. -/
def displayName (interpreter : Interpreter) (id : String) : String :=
  ((interpreter.state.character? id).bind Character.name?).getD id

/-- Applies an assignment to the state. -/
def assign (interpreter : Interpreter) (expression : String) : Interpreter :=
  { interpreter with state := interpreter.state.assigned expression }

/-- Applies an assignment when there is one. -/
def assignOptional (interpreter : Interpreter) (expression : Option String) : Interpreter :=
  (expression.map interpreter.assign).getD interpreter

/-- Puts a line on an empty screen. -/
def showLine (interpreter : Interpreter) (character : Option String) (text : String) :
    Interpreter :=
  let rendered := interpreter.state.substitute text
  let screen :=
    match character with
    | some id =>
      { Screen.blank with speaker := interpreter.displayName id, dialogue := rendered }
    | none => { Screen.blank with narration := rendered }
  { interpreter with screen }

/-- Adds a line to the log. -/
def logLine (interpreter : Interpreter) (speaking : Bool) (text : String) : Interpreter :=
  let line : HistoryEntry :=
    if speaking then .dialogue interpreter.screen.speaker text else .narration text
  { interpreter with history := interpreter.history.push (line.atStep interpreter.step) }

/-- Puts a line on screen and adds it to the log. -/
def say (interpreter : Interpreter) (character : Option String) (text : String) : Interpreter :=
  let rendered := interpreter.state.substitute text
  (interpreter.showLine character text).logLine character.isSome rendered

/-- Adds a part to the line on screen. -/
def appendPart (interpreter : Interpreter) (speaking : Bool) (part : DialoguePart) : Interpreter :=
  let addition := interpreter.state.substitute part.text
  { interpreter with screen := interpreter.screen.append speaking addition }

/-- Passes the signals of the audio streams on as events. -/
def forwardSignals (interpreter : Interpreter) : Interpreter :=
  let event : AudioSignal → StoryEvent
    | .pauseAll => .audioPaused
    | .resumeAll => .audioResumed
  { interpreter with
    events := interpreter.events ++ interpreter.audio.signals.map event
    audio := interpreter.audio.withoutSignals }

/-- Asks the host to pause all audio. -/
def pauseAudio (interpreter : Interpreter) : Interpreter :=
  { interpreter with audio := interpreter.audio.pauseAll }.forwardSignals

/-- Asks the host to go on with audio that was paused. -/
def resumeAudio (interpreter : Interpreter) : Interpreter :=
  { interpreter with audio := interpreter.audio.resumeAll }.forwardSignals

end Interpreter

end VisualNovel
