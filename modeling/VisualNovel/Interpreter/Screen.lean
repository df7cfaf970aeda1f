import VisualNovel.Instant
import VisualNovel.Story.Unit

/-!
# What a player sees

The screen holds a line with its speaker, a title card, the options of a choice or a question. The
status says what the story waits for. What the story was doing when it began to wait is kept as a
stack of continuations.
-/

namespace VisualNovel

/-- What the story waits for. -/
inductive Status where
  /-- No story was started. -/
  | notStarted
  /-- A line is on screen. -/
  | dialogue
  /-- A title card is on screen, for some milliseconds when it goes on by itself. -/
  | titles (autoResumeMs : Option Nat)
  /-- The player is asked for a text. -/
  | input
  /-- The player is asked to choose. -/
  | choice
  /-- The story is over. -/
  | completed
  /-- A step failed, for the given reason. -/
  | halted (reason : String)
  deriving DecidableEq

/-- Something that happened in the story. -/
inductive StoryEvent where
  /-- The story is over. -/
  | completed
  /-- A title card ends with an effect. -/
  | titleEffectEnd (effect : String)
  /-- All audio shall pause. -/
  | audioPaused
  /-- All audio shall go on. -/
  | audioResumed
  /-- Characters were loaded. -/
  | charactersLoaded (ids : List String)
  deriving DecidableEq

/-- A title card on screen. -/
structure TitleCard where
  /-- The text. -/
  text : String
  /-- The effect at the beginning. -/
  effectStart : Option String
  /-- The effect while the card is shown. -/
  effect : Option String
  /-- The effect at the end. -/
  effectEnd : Option String
  /-- Whether the text appears character by character. -/
  typewriter : Bool
  /-- The milliseconds after which the story goes on by itself. -/
  durationMs : Option Nat
  deriving DecidableEq

/-- A question on screen. -/
structure InputPrompt where
  /-- The text. -/
  text : String
  /-- The path that the answer is written to. -/
  path : Option String
  /-- The text at the path when the question was asked. -/
  initial : String
  deriving DecidableEq

/-- What is on screen. -/
structure Screen where
  /-- The name of the speaker. -/
  speaker : String
  /-- The spoken line. -/
  dialogue : String
  /-- The narrated line. -/
  narration : String
  /-- The title card. -/
  title : Option TitleCard
  /-- The labels of the options. -/
  choices : List String
  /-- The question. -/
  input : Option InputPrompt
  /-- The number of characters of the line that were on screen before. -/
  printed : Nat
  deriving DecidableEq

namespace Status

/-- Whether the story waits for the player or for time to pass. -/
def isWaiting : Status → Bool
  | .dialogue => true
  | .titles _ => true
  | .input => true
  | .choice => true
  | _ => false

/-- Whether a step failed. -/
def isHalted : Status → Bool
  | .halted _ => true
  | _ => false

end Status

namespace Screen

/-- The empty screen. -/
def blank : Screen := ⟨"", "", "", none, [], none, 0⟩

/-- The line on screen, spoken or else narrated. -/
def line (screen : Screen) : String :=
  if screen.dialogue.isEmpty then screen.narration else screen.dialogue

/-- Adds to the line and remembers how much of it was there. -/
def append (screen : Screen) (speaking : Bool) (addition : String) : Screen :=
  if speaking then
    { screen with dialogue := screen.dialogue ++ addition, printed := screen.dialogue.length }
  else
    { screen with narration := screen.narration ++ addition, printed := screen.narration.length }

end Screen

/-- What is left to do when the story goes on. -/
inductive Continuation where
  /-- Parts of the line of the current step, from a position on. -/
  | dialogueParts (next : Nat)
  /-- Actions of the option that was picked. -/
  | choiceActions (remaining : List ChoiceAction)
  /-- The screen under a line that was injected. -/
  | interjection (screen : Screen) (status : Status)
  deriving DecidableEq

namespace Continuation

/-- Whether this is the screen under an injected line. -/
def isInterjection : Continuation → Bool
  | .interjection _ _ => true
  | _ => false

/-- The position of the next part. -/
def nextPart? : Continuation → Option Nat
  | .dialogueParts next => some next
  | _ => none

end Continuation

/-- The time at which a title card goes on by itself. -/
structure TitleTimer where
  /-- The number that tells timers apart. -/
  token : Nat
  /-- When the timer is due. -/
  deadline : Instant
  /-- Whether an effect at the end has to be acknowledged. -/
  awaitsEffectEnd : Bool
  deriving DecidableEq

namespace TitleTimer

/-- Whether the deadline has come. -/
def isDue (timer : TitleTimer) (now : Instant) : Bool :=
  timer.deadline ≤ now

end TitleTimer

end VisualNovel
