import VisualNovel.Interpreter.Run

/-!
# Controlling a story

The operations of a host: starting and ending a story, going on, choosing, answering, redirecting
and injecting lines. An operation that does not fit what the story waits for is refused, or leaves
the story as it is.
-/

namespace VisualNovel.Interpreter

/-- Puts a screen back that an injected line covered. -/
def uncover (interpreter : Interpreter) (screen : Screen) (status : Status)
    (continuations : List Continuation) : Outcome :=
  { interpreter with screen, continuations }.wait status

/-- Runs the actions of an option. A line waits for the player and keeps the actions behind it, a
jump drops them, and at their end the story goes on. -/
def runActions : List ChoiceAction → Interpreter → Outcome
  | [], interpreter => interpreter.stepForward
  | .show character :: actions, interpreter =>
    runActions actions (interpreter.showCharacter character)
  | .hide character :: actions, interpreter =>
    runActions actions (interpreter.hideCharacter character)
  | .dialogue character text :: actions, interpreter =>
    let said := interpreter.say character text
    { said with continuations := .choiceActions actions :: said.continuations }.wait .dialogue
  | .goto target :: _, interpreter => interpreter.redirect target

/-- Shows a part of the line of the current step. The last part puts the whole line into the
log. -/
def showPart (interpreter : Interpreter) (next : Nat) : Outcome :=
  match interpreter.currentStep?.map Step.kind with
  | some (.dialogue line) =>
    match line.parts[next]? with
    | none => interpreter.stepForward
    | some part =>
      let speaking := line.character.isSome
      let shown := (interpreter.assignOptional part.assignment).appendPart speaking part
      let after :=
        if next + 1 < line.parts.length then
          { shown with continuations := .dialogueParts (next + 1) :: shown.continuations }
        else shown.logLine speaking shown.screen.line
      after.wait .dialogue
  | _ => interpreter.stepForward

/-- Goes on with what is left to do. -/
def resume (interpreter : Interpreter) : Continuation → Outcome
  | .dialogueParts next => interpreter.showPart next
  | .choiceActions remaining => runActions remaining interpreter.clearScreen
  | .interjection screen status => interpreter.uncover screen status interpreter.continuations

/-- Starts a unit from its first step: the given one, or the current one, or else the unit
`start`. -/
def restart (interpreter : Interpreter) (id : Option String) : Outcome :=
  match interpreter.fetchUnit ((id.or interpreter.unitId?).getD "start") with
  | (.error cause, after) => after.refuse (.content cause)
  | (.ok story, after) =>
    { after.clearDisplay with
      callStack := [], continuations := [], restoring := false, story := some story, step := 0 }.run

/-- Starts a unit. -/
def start (interpreter : Interpreter) (id : String) : Outcome :=
  interpreter.restart (some id)

/-- Goes on after a line or a title card. An injected line is dismissed first. While a choice or a
question is on screen, and when the story is over or halted, nothing happens. -/
def advance (interpreter : Interpreter) : Outcome :=
  match interpreter.continuations with
  | .interjection screen status :: continuations =>
    interpreter.uncover screen status continuations
  | continuations =>
    match interpreter.status with
    | .notStarted => interpreter.refuse .notStarted
    | .choice => interpreter.stay
    | .input => interpreter.stay
    | .completed => interpreter.stay
    | .halted _ => interpreter.stay
    | _ =>
      match continuations with
      | [] => interpreter.stepForward
      | continuation :: rest => { interpreter with continuations := rest }.resume continuation

/-- Redirects the story and forgets what was left to do. -/
def goto (interpreter : Interpreter) (target : String) : Outcome :=
  if interpreter.story.isNone then interpreter.refuse .notStarted
  else { interpreter with continuations := [], restoring := false }.redirect target

/-- Runs a halted story again from the step that failed. -/
def retry (interpreter : Interpreter) : Outcome :=
  if interpreter.status.isHalted then interpreter.run else interpreter.stay

/-- Ends the story. -/
def endStory (interpreter : Interpreter) : Outcome :=
  { interpreter.clearDisplay with continuations := [] }.complete

/-- Forgets the story and everything global, but keeps the characters and the units that were
loaded. -/
def reset (interpreter : Interpreter) : Interpreter :=
  { interpreter.clearDisplay with
    story := none
    step := 0
    callStack := []
    continuations := []
    visible := []
    scene := none
    state := interpreter.state.setGlobal []
    history := interpreter.history.clear
    audio := interpreter.audio.stopAll
    restoring := false
    status := .notStarted }

/-- Whether an injected line is on screen. -/
def isInterrupted (interpreter : Interpreter) : Bool :=
  interpreter.continuations.head?.any Continuation.isInterjection

/-- Lets a title card go on because its time has come. A timer that is not the armed one is
ignored, and an injected line defers it. A card with an effect at the end waits for its
acknowledgement. -/
def fireTimer (interpreter : Interpreter) (token : Nat) : Outcome :=
  match interpreter.timer with
  | none => interpreter.stay
  | some timer =>
    if timer.token ≠ token || interpreter.isInterrupted then interpreter.stay
    else
      let fired := { interpreter with timer := none }
      if timer.awaitsEffectEnd then
        let effect := (interpreter.screen.title.bind TitleCard.effectEnd).getD ""
        { fired with effectPending := true }.emit (.titleEffectEnd effect) |>.stay
      else fired.advance

/-- Lets a title card go on when it is time. -/
def tick (interpreter : Interpreter) (now : Instant) : Outcome :=
  match interpreter.timer with
  | none => interpreter.stay
  | some timer => if timer.isDue now then interpreter.fireTimer timer.token else interpreter.stay

/-- Lets a title card go on because its effect has ended. -/
def acknowledgeEffect (interpreter : Interpreter) : Outcome :=
  if interpreter.effectPending then { interpreter with effectPending := false }.advance
  else interpreter.stay

/-- The text at the path of the question on screen. -/
def initialInput (interpreter : Interpreter) : String :=
  let path := interpreter.screen.input.bind InputPrompt.path
  ((path.bind interpreter.state.read?).map Value.display).getD ""

/-- Answers the question on screen. -/
def submitInput (interpreter : Interpreter) (answer : String) : Outcome :=
  if interpreter.status ≠ .input then interpreter.refuse .noPendingInput
  else
    let path := interpreter.screen.input.bind InputPrompt.path
    let state := (path.map fun path => (interpreter.state.write path (.text answer)).1).getD
      interpreter.state
    { interpreter with state, screen := { interpreter.screen with input := none } }.stepForward

/-- Picks an option of the choice on screen. -/
def select (interpreter : Interpreter) (index : Nat) : Outcome :=
  if interpreter.status ≠ .choice then interpreter.refuse .noPendingChoice
  else
    match interpreter.currentStep?.map Step.kind with
    | some (.choice offer) =>
      match offer.options[index]? with
      | none => interpreter.refuse (.invalidChoice index)
      | some option => runActions option.actionList interpreter.clearScreen
    | _ => interpreter.refuse .noPendingChoice

/-- Shows a line over what is on screen, until the next advance. -/
def inject (interpreter : Interpreter) (character : Option String) (text : String) : Outcome :=
  let covered : Continuation := .interjection interpreter.screen interpreter.status
  let said := interpreter.say character text
  { said with continuations := covered :: said.continuations }.wait .dialogue

end VisualNovel.Interpreter
