import VisualNovel.Rules.Document
import VisualNovel.Saves.Codec
import VisualNovel.Saves.Store
import VisualNovel.Session.Configuration
import VisualNovel.Session.Stage

/-!
# Sessions

A session is one play of a game: the running story with the rules that watch it and the slots it is
saved in. Each operation is followed by at most one pass of the rules, and only when the state has
changed since the last pass. What the rules write counts as seen.
-/

namespace VisualNovel

/-- One play of a game. -/
structure Session where
  /-- The configuration. -/
  configuration : Configuration
  /-- The story, the location and the notifications. -/
  stage : Stage
  /-- The rules. -/
  rules : RuleEngine Stage
  /-- The baselines of the characters. -/
  codec : SaveCodec
  /-- Where games are saved. -/
  slots : SlotStore
  /-- The revision of the state after the last pass of the rules. -/
  evaluated : Option UInt64

/-- The result of an operation of a session and the session after it. -/
structure SessionOutcome where
  /-- The status of the story, or why the operation failed. -/
  result : Except SessionError Status
  /-- The session after the operation. -/
  after : Session

namespace Session

/-- A session before any story. -/
def new (content : Content) (slots : SlotStore) (configuration : Configuration) : Session where
  configuration := configuration
  stage := ⟨.new content configuration.storySettings, none, []⟩
  rules := .empty
  codec := .empty
  slots := slots
  evaluated := none

/-- The running story. -/
def interpreter (session : Session) : Interpreter :=
  session.stage.interpreter

/-- The session with a changed story. -/
def withInterpreter (session : Session) (interpreter : Interpreter) : Session :=
  { session with stage := { session.stage with interpreter } }

/-- The session at a time. -/
def atTime (session : Session) (now : Instant) : Session :=
  session.withInterpreter { session.interpreter with clock := now }

/-- The operation is refused. -/
def refuse (session : Session) (error : SessionError) : SessionOutcome :=
  ⟨.error error, session⟩

/-- Whether a pass of the rules is due: the engine runs, and the state was not seen yet. -/
def isPassDue (session : Session) : Bool :=
  session.rules.running && session.evaluated ≠ some session.interpreter.state.revision

/-- A pass of the rules, when one is due. -/
def evaluateRules (session : Session) : Session :=
  if session.isPassDue then
    let (rules, stage, _) := session.rules.evaluateAt session.stage session.interpreter.clock
    { session with rules, stage, evaluated := some stage.interpreter.state.revision }
  else session

/-- The operation succeeds: the rules are evaluated, and the result is the status after them. -/
def conclude (session : Session) : SessionOutcome :=
  let evaluated := session.evaluateRules
  ⟨.ok evaluated.interpreter.status, evaluated⟩

/-- Performs an operation of the interpreter. No pass follows one that failed. -/
def perform (session : Session) (operation : Interpreter → Outcome) : SessionOutcome :=
  let outcome := operation session.interpreter
  let after := session.withInterpreter outcome.after
  match outcome.result with
  | .error cause => after.refuse (.story cause)
  | .ok _ => after.conclude

/-- Adds rules up to the first that is refused. -/
def registerRules (session : Session) (rules : List (Rule Stage)) :
    Except SessionError Unit × Session :=
  match session.rules.registerAll rules with
  | (engine, result) => (result.mapError .rule, { session with rules := engine })

/-- The name of the file of rules in a content directory. -/
def rulesFileName : String := "rules.json"

/-- Adds the rules of a content directory, if it has any, and tells how many there are. -/
def loadRules (session : Session) (disk : Disk) (directory : String) :
    Except SessionError Nat × Session :=
  let path := Disk.join directory rulesFileName
  match disk.readText path with
  | .error .notFound => (.ok 0, session)
  | .error cause => (.error (.unreadable path cause), session)
  | .ok content =>
    match Rule.parseAll content with
    | .error cause => (.error (.rule cause), session)
    | .ok rules =>
      match session.registerRules rules with
      | (result, after) => (result.map fun _ => rules.length, after)

/-- The characters of the roster that are not in play. -/
def missingCharacters (session : Session) : List String :=
  session.configuration.roster.filter fun id =>
    (session.interpreter.state.character? id).isNone

/-- Takes the baselines of new characters, and starts the rules unless they are switched off. -/
def captured (session : Session) : Session :=
  let rules := if session.configuration.rulesEnabled then session.rules.start else session.rules
  { session with codec := session.codec.capture session.interpreter.state, rules }

/-- Brings the roster into play. -/
def prepare (session : Session) : Except SessionError Unit × Session :=
  match session.missingCharacters with
  | [] => (.ok (), session.captured)
  | missing =>
    match session.interpreter.loadCharacters missing with
    | (.error cause, after) => (.error (.story cause), session.withInterpreter after)
    | (.ok _, after) => (.ok (), (session.withInterpreter after).captured)

/-- Starts a unit, or else the configured one. -/
def start (session : Session) (id : Option String) : SessionOutcome :=
  match session.prepare with
  | (.error error, after) => after.refuse error
  | (.ok _, after) => after.perform (·.start (id.getD session.configuration.startUnit))

/-- The session as it was before any story, with the same rules. -/
def cleared (session : Session) : Session :=
  let interpreter := session.interpreter.reset
  { session with
    stage := { session.stage with
      interpreter := { interpreter with state := interpreter.state.clear }, notifications := [] }
    codec := .empty
    rules := session.rules.reset
    evaluated := none }

/-- Throws all progress away and starts over. -/
def newGame (session : Session) : SessionOutcome :=
  session.cleared.start none

/-- Goes on after a line or a title card. -/
def advance (session : Session) : SessionOutcome :=
  session.perform Interpreter.advance

/-- Picks an option. -/
def select (session : Session) (index : Nat) : SessionOutcome :=
  session.perform (·.select index)

/-- Answers a question. -/
def submitInput (session : Session) (answer : String) : SessionOutcome :=
  session.perform (·.submitInput answer)

/-- Redirects the story. -/
def goto (session : Session) (target : String) : SessionOutcome :=
  session.perform (·.goto target)

/-- Runs a halted story again. -/
def retry (session : Session) : SessionOutcome :=
  session.perform Interpreter.retry

/-- Lets a title card go on when it is time. -/
def tick (session : Session) (now : Instant) : SessionOutcome :=
  session.perform (·.tick now)

/-- Lets a title card go on because its effect has ended. -/
def acknowledgeEffect (session : Session) : SessionOutcome :=
  session.perform Interpreter.acknowledgeEffect

/-- Moves the player; the rules are evaluated even if the state has not changed. -/
def moveTo (session : Session) (location : Option Value) : Session :=
  { session with stage := { session.stage with location }, evaluated := none }.evaluateRules

/-- The name of the main character. -/
def playerName? (session : Session) : Option String :=
  (session.interpreter.state.character? "mc").bind Character.name?

/-- Saves into a slot, under a name or else the one of the main character. -/
def save (session : Session) (slot : Nat) (name : Option String) :
    Except SessionError SaveFile × Session :=
  match session.codec.serialize session.interpreter with
  | .error cause => (.error (.save cause), session)
  | .ok game =>
    let playerName := (name.or session.playerName?).getD ""
    let file := SaveFile.new slot playerName game session.interpreter.clock
    match session.slots.write file with
    | .error cause => (.error (.save cause), session)
    | .ok slots => (.ok file, { session with slots })

/-- Restores a record. The rules begin anew, and what they saw is forgotten. -/
def restore (session : Session) (game : SaveRecord) : SessionOutcome :=
  let readied := { session with
    rules := session.rules.reset, stage := session.stage.withoutNotifications }
  let restored := readied.codec.restore game readied.interpreter
  let after := { readied.withInterpreter restored.interpreter with codec := restored.codec }
  match restored.result with
  | .error cause => after.refuse (.save cause)
  | .ok _ => { after with evaluated := none }.conclude

/-- Loads the game in a slot. -/
def load (session : Session) (slot : Nat) : SessionOutcome :=
  match session.slots.read slot with
  | .error cause => session.refuse (.save cause)
  | .ok file =>
    match session.prepare with
    | (.error error, after) => after.refuse error
    | (.ok _, after) => after.restore file.game

/-- The latest file of every slot. -/
def saves (session : Session) : Except SessionError (List SaveFile) :=
  session.slots.list.mapError .save

/-- Empties a slot. -/
def deleteSave (session : Session) (slot : Nat) : Except SessionError Session :=
  match session.slots.delete slot with
  | .error cause => .error (.save cause)
  | .ok slots => .ok { session with slots }

/-- The session without notifications that wait to be shown. -/
def withoutNotifications (session : Session) : Session :=
  { session with stage := session.stage.withoutNotifications }

end Session

end VisualNovel
