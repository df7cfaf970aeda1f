import VisualNovel.Audio
import VisualNovel.Decimal.Nearest

/-!
# Story units

A story is written in units: named sequences of steps. A step has an optional label, to which jumps
lead, and a kind that says what it does. Multi-part lines, title cards and choices carry data of
their own.
-/

namespace VisualNovel

/-- What a sound, a voice or music plays. -/
structure AudioCue where
  /-- The asset. -/
  file : String
  /-- Whether the stream repeats; the channel decides when absent. -/
  looping : Option Bool
  /-- The identifier of the stream; generated when absent. -/
  stream : Option String
  deriving DecidableEq

/-- A part of a line, shown by one advance. -/
structure DialoguePart where
  /-- The text that is added to the line. -/
  text : String
  /-- The assignment applied before the part is shown. -/
  assignment : Option String
  deriving DecidableEq

/-- A spoken or narrated line. -/
structure Dialogue where
  /-- The character that speaks; absent for narration. -/
  character : Option String
  /-- The text. -/
  text : String
  /-- The assignment applied before the line is shown. -/
  assignment : Option String
  /-- The parts that follow the text. -/
  parts : List DialoguePart
  deriving DecidableEq

/-- A title card. -/
structure Titles where
  /-- The text. -/
  text : String
  /-- The milliseconds after which the story goes on by itself. -/
  duration : Option Float
  /-- The effect at the beginning. -/
  effectStart : Option String
  /-- The effect while the card is shown. -/
  effect : Option String
  /-- The effect at the end, which the host acknowledges. -/
  effectEnd : Option String
  /-- Whether the text appears character by character. -/
  typewriter : Bool
  /-- The assignment applied before the card is shown. -/
  assignment : Option String

/-- What happens after an option was picked. -/
inductive ChoiceAction where
  /-- Shows a line and waits. -/
  | dialogue (character : Option String) (text : String)
  /-- Jumps; actions behind it are not run. -/
  | goto (target : String)
  /-- Shows a character. -/
  | show (character : String)
  /-- Hides a character. -/
  | hide (character : String)
  deriving DecidableEq

/-- An option of a choice. -/
structure ChoiceOption where
  /-- The label. -/
  text : String
  /-- The actions; without any the story goes on. -/
  actions : Option (List ChoiceAction)
  deriving DecidableEq

/-- A choice between options. -/
structure Choice where
  /-- The prompt. -/
  text : Option String
  /-- The character that asks. -/
  speaker : Option String
  /-- The options in the order of display. -/
  options : List ChoiceOption
  deriving DecidableEq

/-- What a step does. -/
inductive StepKind where
  /-- Changes the scene; the label names it when nothing else does. -/
  | scene (id : Option String)
  /-- Shows a character. -/
  | show (character : String)
  /-- Hides a character. -/
  | hide (character : String)
  /-- Plays a stream on a channel. -/
  | play (channel : StreamKind) (cue : AudioCue)
  /-- Stops one stream. -/
  | stopStream (stream : String)
  /-- Stops every stream. -/
  | stopAllStreams
  /-- Shows a line. -/
  | dialogue (line : Dialogue)
  /-- Shows a title card. -/
  | titles (card : Titles)
  /-- Asks the player for a text and writes it to a path. -/
  | input (path : Option String) (text : Option String)
  /-- Offers options. -/
  | choice (choice : Choice)
  /-- Jumps to a label or calls another unit. -/
  | goto (target : String)
  /-- Returns to the caller. -/
  | back
  /-- Returns to the caller, and finishes the story when there is none. -/
  | finish
  /-- Applies an assignment. -/
  | assign (expression : String)

/-- A step of a unit. -/
structure Step where
  /-- The label. -/
  label : Option String
  /-- What the step does. -/
  kind : StepKind

/-- A named sequence of steps. -/
structure StoryUnit where
  /-- The identifier. -/
  id : String
  /-- The steps. -/
  steps : List Step

/-- A position to return to. -/
structure CallFrame where
  /-- The unit. -/
  unitId : String
  /-- The step. -/
  step : Nat
  deriving DecidableEq

namespace StepKind

/-- The name of the kind. -/
def name : StepKind → String
  | .scene _ => "scene"
  | .show _ => "show"
  | .hide _ => "hide"
  | .play channel _ => channel.name
  | .stopStream _ => "stop-stream"
  | .stopAllStreams => "stop-all-streams"
  | .dialogue _ => "dialogue"
  | .titles _ => "titles"
  | .input _ _ => "inputtext"
  | .choice _ => "choice"
  | .goto _ => "goto"
  | .back => "continue"
  | .finish => "end"
  | .assign _ => "variable"

end StepKind

namespace Titles

/-- The duration in whole milliseconds, when it is finite and positive; a half is rounded up, and
the greatest machine word bounds the result. -/
def durationMs? (card : Titles) : Option Nat :=
  (card.duration.filter fun duration => duration.isFinite && duration > 0.0).map fun duration =>
    duration.round.toUInt64.toNat

end Titles

namespace ChoiceOption

/-- The actions of an option; none when absent. -/
def actionList (option : ChoiceOption) : List ChoiceAction :=
  option.actions.getD []

end ChoiceOption

namespace ChoiceAction

/-- Where an action jumps to. -/
def target? : ChoiceAction → Option String
  | .goto target => some target
  | _ => none

end ChoiceAction

namespace Step

/-- The targets that a step names, in order. -/
def targets (step : Step) : List String :=
  match step.kind with
  | .goto target => [target]
  | .choice choice =>
    choice.options.flatMap fun option => option.actionList.filterMap ChoiceAction.target?
  | _ => []

end Step

namespace StoryUnit

/-- The position of the first step with the label. -/
def labelIndex? (story : StoryUnit) (label : String) : Option Nat :=
  story.steps.findIdx? fun step => step.label = some label

/-- The step at a position. -/
def step? (story : StoryUnit) (position : Nat) : Option Step :=
  story.steps[position]?

/-- Every target that a step names, with the position of the step. -/
def gotoTargets (story : StoryUnit) : List (Nat × String) :=
  story.steps.zipIdx.flatMap fun (step, position) => step.targets.map (position, ·)

end StoryUnit

end VisualNovel
