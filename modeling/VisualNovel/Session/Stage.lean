import VisualNovel.Interpreter.Control
import VisualNovel.Rules.Host

/-!
# The stage

The stage is the part of a session that rules see and change: the running story, the location of
the player, and the notifications that wait to be shown.
-/

namespace VisualNovel

/-- What rules see and change. -/
structure Stage where
  /-- The running story. -/
  interpreter : Interpreter
  /-- The location of the player. -/
  location : Option Value
  /-- The notifications that wait to be shown, oldest first. -/
  notifications : List Notification

namespace Stage

/-- The stage after an operation of the interpreter, whether it succeeded or not. -/
def settle (stage : Stage) (outcome : Outcome) : Stage :=
  { stage with interpreter := outcome.after }

/-- Whether a story was started and is not over. -/
def isPlaying (stage : Stage) : Bool :=
  stage.interpreter.status ≠ .notStarted && stage.interpreter.status ≠ .completed

/-- Writes to a path of the state. -/
def write (stage : Stage) (path : String) (value : Value) : Stage :=
  { stage with interpreter := { stage.interpreter with
      state := (stage.interpreter.state.write path value).1 } }

/-- The stage without waiting notifications. -/
def withoutNotifications (stage : Stage) : Stage :=
  { stage with notifications := [] }

end Stage

instance : RuleHost Stage where
  read stage path := stage.interpreter.state.read? path
  location stage := stage.location
  activeStory stage := stage.interpreter.unitId?
  isPlaying stage := stage.isPlaying
  write stage path value := stage.write path value
  goto stage target := stage.settle (stage.interpreter.goto target)
  endStory stage := stage.settle stage.interpreter.endStory
  restart stage unitId := stage.settle (stage.interpreter.restart unitId)
  showLine stage character text := stage.settle (stage.interpreter.inject character text)
  notify stage notification :=
    { stage with notifications := stage.notifications ++ [notification] }

end VisualNovel
