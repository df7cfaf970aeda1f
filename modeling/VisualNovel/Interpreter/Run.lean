import VisualNovel.Interpreter.Basic

/-!
# Running steps

A run performs steps until the story waits, ends or fails. A jump leads to a label of the current
unit, or else calls another unit, which returns to the step behind the jump. A unit whose steps are
used up returns too. The number of steps without a pause is limited, and each return takes a frame
off the stack, so every run ends.
-/

namespace VisualNovel

/-- What follows a step. -/
inductive Flow where
  /-- The next step. -/
  | next
  /-- The step that was jumped to. -/
  | jumped
  /-- A pause. -/
  | suspend (status : Status)
  /-- The end of the story. -/
  | complete

/-- A round of a run: it performs a step, or returns from a unit whose steps are used up, or finds
the run at its end. -/
inductive Turn where
  /-- A step was performed, and the run goes on. -/
  | performed (after : Interpreter)
  /-- The caller goes on. -/
  | returned (after : Interpreter)
  /-- A step was performed, and the run is over. -/
  | stopped (outcome : Outcome)
  /-- The run is over. -/
  | ended (outcome : Outcome)

namespace Interpreter

/-- The result of a step and the interpreter after it. -/
abbrev Dispatched := Except ContentError Flow × Interpreter

/-- Goes to a label of the current unit, or else calls the unit of that name. The display is
cleared even if there is neither. -/
def jump (interpreter : Interpreter) (target : String) : Dispatched :=
  let cleared := interpreter.clearDisplay
  match cleared.story with
  | none => (.error (.notFound .storyUnit target), cleared)
  | some story =>
    match story.labelIndex? target with
    | some step => (.ok .jumped, { cleared with step })
    | none =>
      match cleared.fetchUnit target with
      | (.error cause, after) => (.error cause, after)
      | (.ok next, after) =>
        let frame : CallFrame := ⟨story.id, after.step + 1⟩
        (.ok .jumped, { after with
          story := some next, step := 0, callStack := frame :: after.callStack })

/-- Returns to the innermost caller. Without one the story is complete. -/
def returnToCaller (interpreter : Interpreter) : Dispatched :=
  match interpreter.callStack with
  | [] => (.ok .complete, interpreter)
  | frame :: callStack =>
    match interpreter.fetchUnit frame.unitId with
    | (.error cause, after) => (.error cause, after)
    | (.ok story, after) =>
      (.ok .jumped, { after.clearDisplay with story := some story, step := frame.step, callStack })

/-- Changes the scene. -/
def changeScene (interpreter : Interpreter) (id : String) : Dispatched :=
  match interpreter.content.scene id with
  | .ok scene => (.ok .next, { interpreter with scene := some scene })
  | .error cause => (.error cause, interpreter)

/-- A change that is not made again while steps are passed after a restore. -/
def unlessRestoring (interpreter : Interpreter) (change : Interpreter → Interpreter) :
    Dispatched :=
  (.ok .next, if interpreter.restoring then interpreter else change interpreter)

/-- Plays a stream. -/
def playCue (interpreter : Interpreter) (channel : StreamKind) (cue : AudioCue) : Interpreter :=
  { interpreter with audio := (interpreter.audio.play channel cue.file cue.looping cue.stream).1 }

/-- Shows a line. After a restore its assignment and its place in the log are left alone, and the
parts that were shown before are shown at once. A line in parts is logged with the last of them. -/
def showDialogue (interpreter : Interpreter) (line : Dialogue) : Dispatched :=
  let restoring := interpreter.restoring
  let settled := { interpreter with restoring := false, restoreParts := 0 }
  let assigned := if restoring then settled else settled.assignOptional line.assignment
  let speaking := line.character.isSome
  if line.parts.isEmpty then
    (.ok (.suspend .dialogue),
      if restoring then assigned.showLine line.character line.text
      else assigned.say line.character line.text)
  else
    let shown := if restoring then min interpreter.restoreParts line.parts.length else 0
    let start := assigned.showLine line.character line.text
    let filled := (line.parts.take shown).foldl (fun screen part => screen.appendPart speaking part)
      start
    let after :=
      if shown < line.parts.length then
        { filled with continuations := .dialogueParts shown :: filled.continuations }
      else filled
    (.ok (.suspend .dialogue), after)

/-- Arms the timer of a title card. -/
def armTimer (interpreter : Interpreter) (card : Titles) (durationMs : Nat) : Interpreter :=
  { interpreter with
    timer := some ⟨interpreter.nextToken, interpreter.clock.after durationMs,
      card.effectEnd.isSome⟩
    nextToken := interpreter.nextToken + 1 }

/-- Shows a title card, and arms its timer when it has a duration. -/
def showTitles (interpreter : Interpreter) (card : Titles) : Dispatched :=
  let cleared := (interpreter.assignOptional card.assignment).clearDisplay
  let text := cleared.state.substitute card.text
  let durationMs := card.durationMs?
  let shown : TitleCard :=
    ⟨text, card.effectStart, card.effect, card.effectEnd, card.typewriter, durationMs⟩
  let logged := { cleared with
    screen := { cleared.screen with title := some shown }
    history := cleared.history.push ((HistoryEntry.titles text).atStep cleared.step) }
  let armed := (durationMs.map (logged.armTimer card)).getD logged
  (.ok (.suspend (.titles durationMs)), armed)

/-- Asks the player for a text. -/
def showInput (interpreter : Interpreter) (path text : Option String) : Dispatched :=
  let state := interpreter.state
  let initial := ((path.bind state.read?).map Value.display).getD ""
  let prompt : InputPrompt := ⟨(text.map state.substitute).getD "", path, initial⟩
  (.ok (.suspend .input),
    { interpreter with screen := { Screen.blank with input := some prompt }, restoring := false })

/-- Asks the player to choose. -/
def showChoice (interpreter : Interpreter) (offer : Choice) : Dispatched :=
  let state := interpreter.state
  let screen : Screen := { Screen.blank with
    speaker := (offer.speaker.map interpreter.displayName).getD ""
    dialogue := (offer.text.map state.substitute).getD ""
    choices := offer.options.map fun option => state.substitute option.text }
  (.ok (.suspend .choice), { interpreter with screen, restoring := false })

/-- Performs a step. While steps are passed after a restore, the scene, the cast and the audio stay
as they were restored, and a title card ends the passing. -/
def dispatch (interpreter : Interpreter) (step : Step) : Dispatched :=
  match step.kind with
  | .assign expression => (.ok .next, interpreter.assign expression)
  | .scene id =>
    match id.or step.label with
    | some id => if interpreter.restoring then (.ok .next, interpreter)
      else interpreter.changeScene id
    | none => (.ok .next, interpreter)
  | .show character => interpreter.unlessRestoring (·.showCharacter character)
  | .hide character => interpreter.unlessRestoring (·.hideCharacter character)
  | .play channel cue => interpreter.unlessRestoring (·.playCue channel cue)
  | .stopStream stream =>
    interpreter.unlessRestoring fun playing => { playing with audio := playing.audio.stop stream }
  | .stopAllStreams =>
    interpreter.unlessRestoring fun playing => { playing with audio := playing.audio.stopAll }
  | .dialogue line => interpreter.showDialogue line
  | .titles card =>
    if interpreter.restoring then (.ok .next, { interpreter with restoring := false })
    else interpreter.showTitles card
  | .input path text => interpreter.showInput path text
  | .choice offer => interpreter.showChoice offer
  | .goto target => interpreter.jump target
  | .back => interpreter.returnToCaller
  | .finish => { interpreter with restoring := false }.returnToCaller

/-- What a step makes of the run. -/
def afterStep : Dispatched → Turn
  | (.ok .next, after) => .performed { after with step := after.step + 1 }
  | (.ok .jumped, after) => .performed after
  | (.ok (.suspend status), after) => .stopped (after.wait status)
  | (.ok .complete, after) => .stopped after.complete
  | (.error cause, after) => .stopped (after.haltAtStep cause)

/-- The next round after some steps. -/
def turn (dispatched : Nat) (interpreter : Interpreter) : Turn :=
  match interpreter.story with
  | none => .ended interpreter.complete
  | some story =>
    match story.step? interpreter.step with
    | none =>
      match interpreter.returnToCaller with
      | (.ok .complete, after) => .ended after.complete
      | (.ok _, after) => .returned after
      | (.error cause, after) => .ended (after.haltAtStep cause)
    | some step =>
      let limit := interpreter.settings.maxAutoSteps
      if dispatched ≥ limit then .ended (interpreter.halt (.stepLimit limit))
      else afterStep (interpreter.dispatch step)

/-- Takes rounds after `dispatched` steps, and at most `fuel` of them. -/
def loop : (fuel dispatched : Nat) → Interpreter → Outcome
  | 0, _, interpreter => interpreter.stay
  | fuel + 1, dispatched, interpreter =>
    match interpreter.turn dispatched with
    | .performed after => loop fuel (dispatched + 1) after
    | .returned after => loop fuel dispatched after
    | .stopped outcome => outcome
    | .ended outcome => outcome

/-- The rounds that a run takes at most: a step may add one frame to the stack, and a return takes
one off. -/
def rounds (interpreter : Interpreter) : Nat :=
  2 * interpreter.settings.maxAutoSteps + interpreter.callStack.length + 1

/-- Performs steps until the story waits, ends or fails. -/
def run (interpreter : Interpreter) : Outcome :=
  loop interpreter.rounds 0 interpreter

/-- Goes on behind the current step. -/
def stepForward (interpreter : Interpreter) : Outcome :=
  { interpreter.clearDisplay with restoring := false, step := interpreter.step + 1 }.run

/-- Goes on at a label or in another unit. -/
def redirect (interpreter : Interpreter) (target : String) : Outcome :=
  match interpreter.jump target with
  | (.ok _, after) => after.run
  | (.error cause, after) => after.haltAtStep cause

end Interpreter

end VisualNovel
