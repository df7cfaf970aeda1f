import VisualNovel.Interpreter.Control

/-!
# Snapshots

A snapshot holds where a story stands: the position, the cast, the scene, the audio streams that
repeat, the log, and how many parts of a line are shown. Resuming from a snapshot passes the steps
that follow it without repeating what they did, until the story waits.
-/

namespace VisualNovel

/-- Where a story stands. -/
structure Snapshot where
  /-- The unit. -/
  unitId : String
  /-- The position of the step. -/
  step : Nat
  /-- The positions to return to, the outermost first. -/
  callStack : List CallFrame
  /-- The characters that are shown, in order. -/
  visible : List String
  /-- The scene. -/
  scene : Option String
  /-- The log; rebuilt from the unit when absent. -/
  history : Option (List HistoryEntry)
  /-- The audio streams that repeat. -/
  audio : List AudioStream
  /-- The number of parts of a line that are shown. -/
  dialoguePart : Option Nat
  deriving DecidableEq

namespace Interpreter

/-- The number of parts that are shown of the line of the current step, when it has parts. -/
def shownParts? (interpreter : Interpreter) : Option Nat :=
  match interpreter.currentStep?.map Step.kind with
  | some (.dialogue line) =>
    if line.parts.isEmpty then none
    else some ((interpreter.continuations.findSome? Continuation.nextPart?).getD line.parts.length)
  | _ => none

/-- Where the story stands; there is nothing to take before a story was started. -/
def snapshot (interpreter : Interpreter) : Except StoryError Snapshot :=
  match interpreter.story with
  | none => .error .notStarted
  | some story => .ok {
      unitId := story.id
      step := interpreter.step
      callStack := interpreter.callStack.reverse
      visible := interpreter.visible
      scene := interpreter.scene.map Scene.id
      history := some interpreter.history.entries
      audio := interpreter.audio.loopingStreams
      dialoguePart := interpreter.shownParts? }

/-- The line that a step put into the log, if it did. A line whose parts are not all shown was not
logged. -/
def rebuiltLine? (interpreter : Interpreter) (shownParts index : Nat) (step : Step) :
    Option HistoryEntry :=
  let state := interpreter.state
  match step.kind with
  | .dialogue line =>
    if index = interpreter.step && shownParts < line.parts.length then none
    else
      let parts := line.parts.map fun part => state.substitute part.text
      let text := String.join (state.substitute line.text :: parts)
      let entry : HistoryEntry :=
        match line.character with
        | some id => .dialogue (interpreter.displayName id) text
        | none => .narration text
      some (entry.atStep index)
  | .titles card => some ((HistoryEntry.titles (state.substitute card.text)).atStep index)
  | _ => none

/-- The log as the steps up to the current one would have written it. -/
def rebuiltHistory (interpreter : Interpreter) (story : StoryUnit) (shownParts : Nat) :
    List HistoryEntry :=
  (story.steps.take (interpreter.step + 1)).zipIdx.filterMap fun (step, index) =>
    interpreter.rebuiltLine? shownParts index step

/-- The scene of a snapshot; one that cannot be loaded is none. -/
def restoredScene (interpreter : Interpreter) (id : Option String) : Option Scene :=
  id.bind fun id => (interpreter.content.scene id).toOption

/-- The audio streams of a snapshot that repeat, and no others. -/
def restoredAudio (interpreter : Interpreter) (streams : List AudioStream) : AudioRegistry :=
  (streams.filter AudioStream.looping).foldl AudioRegistry.insert interpreter.audio.stopAll

/-- Goes on from a snapshot. When its unit cannot be loaded nothing changes. -/
def resumeFrom (interpreter : Interpreter) (snapshot : Snapshot) : Outcome :=
  match interpreter.fetchUnit snapshot.unitId with
  | (.error cause, after) => after.refuse (.content cause)
  | (.ok story, after) =>
    let shownParts := snapshot.dialoguePart.getD 0
    let placed := { after.clearDisplay with
      continuations := []
      restoring := true
      restoreParts := shownParts
      callStack := snapshot.callStack.reverse
      visible := snapshot.visible
      scene := after.restoredScene snapshot.scene
      step := min snapshot.step story.steps.length }.dropAbsent
    let lines := snapshot.history.getD (placed.rebuiltHistory story shownParts)
    { placed with
      history := placed.history.replace lines
      audio := placed.restoredAudio snapshot.audio
      story := some story
      status := .notStarted
      state := placed.state.touch }.run

end Interpreter

end VisualNovel
