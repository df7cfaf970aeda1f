import VisualNovel.Command.Basic

/-!
# Playing on a terminal

The player shows a session as lines of text and turns lines of input into its operations. It prints
into a transcript, and after each event tells what it waits for: a line of input, some time for a
title card, or nothing because the game is over.
-/

namespace VisualNovel

/-- What a terminal has to do next. -/
inductive PlayRequest where
  /-- Read a line. -/
  | line
  /-- Let some milliseconds pass. -/
  | pause (milliseconds : Nat)
  /-- Stop. -/
  | stop
  deriving DecidableEq

/-- How a game is entered. -/
structure PlayOptions where
  /-- The unit to start in. -/
  unitId : Option String
  /-- The slot to load instead. -/
  slot : Option Nat
  deriving DecidableEq

/-- A game on a terminal. -/
structure Player where
  /-- The content directory. -/
  directory : String
  /-- The game. -/
  session : Session
  /-- What was printed since the transcript was last taken. -/
  transcript : String
  /-- Whether the game was left. -/
  left : Bool
  /-- Why the game could not be entered. -/
  failure : Option CommandError

namespace Player

/-- Prints a text. -/
def write (player : Player) (text : String) : Player :=
  { player with transcript := player.transcript ++ text }

/-- Prints a line. -/
def print (player : Player) (line : String) : Player :=
  player.write (line ++ "\n")

/-- Prints lines. -/
def printAll (player : Player) (lines : List String) : Player :=
  lines.foldl print player

/-- The player with an empty transcript. -/
def withoutTranscript (player : Player) : Player :=
  { player with transcript := "" }

/-- The player at a time. -/
def atTime (player : Player) (now : Instant) : Player :=
  { player with session := player.session.atTime now }

/-- The session with the content as the disk of its slots holds it, since a save may have changed
the content directory. -/
def refreshed (player : Player) : Player :=
  match player.session.slots.disk? with
  | none => player
  | some disk =>
    let content := contentAt disk player.directory
    { player with
      session := player.session.withInterpreter { player.session.interpreter with content } }

/-- The line of a notification. -/
def notificationLine (notification : Notification) : String :=
  "  [" ++ notification.severity.name ++ "] " ++ notification.text

/-- The line for what is spoken or narrated, without the part that was on screen before. -/
def spokenLine (screen : Screen) : String :=
  let fresh := String.ofList (screen.line.toList.drop screen.printed)
  if screen.printed > 0 || screen.speaker.isEmpty then "  " ++ fresh
  else "  " ++ screen.speaker ++ ": " ++ fresh

/-- The lines for a choice. -/
def choiceLines (screen : Screen) : List String :=
  let question := if screen.line.isEmpty then [] else ["  " ++ screen.line]
  let options := screen.choices.zipIdx.map fun (choice, index) =>
    "  " ++ toString (index + 1) ++ ") " ++ choice
  question ++ options

/-- The lines for what is on screen. -/
def screenLines (interpreter : Interpreter) : List String :=
  let screen := interpreter.screen
  match interpreter.status with
  | .dialogue => [spokenLine screen]
  | .titles _ =>
    (screen.title.map fun card => ["", "  == " ++ card.text ++ " ==", ""]).getD []
  | .choice => choiceLines screen
  | .input =>
    (screen.input.map fun prompt => ["  " ++ prompt.text ++ " [" ++ prompt.initial ++ "]"]).getD []
  | .halted reason => ["  HALTED " ++ reason]
  | .notStarted => []
  | .completed => []

/-- Prints the notifications that wait. -/
def showNotifications (player : Player) : Player :=
  let shown := player.printAll (player.session.stage.notifications.map notificationLine)
  { shown with session := shown.session.withoutNotifications }

/-- Whether a title card waits for its effect. -/
def isEffectEnd : StoryEvent → Bool
  | .titleEffectEnd _ => true
  | _ => false

/-- Forgets the events of the story. -/
def forgetEvents (player : Player) : Player :=
  let quiet := player.session.interpreter.withoutEvents
  { player with session := player.session.withInterpreter quiet }

/-- Prints the notifications and what is on screen. -/
def draw (player : Player) : Player :=
  let shown := player.showNotifications.forgetEvents
  shown.printAll (screenLines shown.session.interpreter)

/-- Goes on after an operation of the session: prints why it failed, or else goes on by `show`. -/
def settle (player : Player) (outcome : SessionOutcome) (proceed : Player → Player) : Player :=
  let after := { player with session := outcome.after }
  match outcome.result with
  | .error cause => after.print ("  " ++ cause.message)
  | .ok _ => proceed after

/-- Shows the game. The effect at the end of a title card is nothing to see on a terminal and ends
at once; no second card can come to its end meanwhile, because that takes time. -/
def render (player : Player) : Player :=
  if player.session.interpreter.events.any isEffectEnd then
    let shown := player.showNotifications.forgetEvents
    shown.settle shown.session.acknowledgeEffect draw
  else player.draw

/-- Shows the game after an operation, or why it failed. -/
def report (player : Player) (outcome : SessionOutcome) : Player :=
  player.settle outcome render

/-- The lines at the beginning. -/
def heading (directory : String) : List String :=
  ["  Playing " ++ directory,
    "  Enter continues. Commands: :save N, :load N, :history, :retry, :quit", ""]

/-- Opens a game at a time. -/
def open? (disk : Disk) (directory : String) (saves : Option String) (now : Instant) :
    Except CommandError Player :=
  (openSession disk directory saves).map fun session =>
    { directory, session := session.atTime now, transcript := "", left := false, failure := none }

/-- Enters a game: loads a slot or starts a unit. -/
def enter (player : Player) (options : PlayOptions) : Player :=
  let begun := player.printAll (heading player.directory)
  let outcome :=
    match options.slot with
    | some slot => begun.session.load slot
    | none => begun.session.start options.unitId
  let after := { begun with session := outcome.after }
  match outcome.result with
  | .error cause => { after with failure := some (.session cause) }
  | .ok _ => after.render

/-- The line of a log entry. -/
def historyLine (entry : HistoryEntry) : String :=
  match entry.kind with
  | .dialogue => "  " ++ entry.speaker ++ ": " ++ entry.text
  | .narration => "  " ++ entry.text
  | .titles => "  == " ++ entry.text ++ " =="

/-- Reads a slot, and goes on with it. -/
def withSlot (player : Player) (argument : Option (List Char)) (proceed : Nat → Player) : Player :=
  match argument with
  | none => player.print "  missing slot number"
  | some characters =>
    match Text.boundedNumeral? SaveFile.slotBound characters with
    | none => player.print "  slot must be a number"
    | some slot => proceed slot

/-- Saves into a slot. -/
def save (player : Player) (slot : Nat) : Player :=
  match player.session.save slot none with
  | (.error cause, session) => { player with session }.print ("  " ++ cause.message)
  | (.ok file, session) =>
    { player with session }.refreshed.print
      ("  Saved slot " ++ toString slot ++ " (" ++ file.stamp ++ ")")

/-- Loads a slot. -/
def load (player : Player) (slot : Nat) : Player :=
  player.settle (player.session.load slot) fun loaded =>
    (loaded.print ("  Loaded slot " ++ toString slot)).render

/-- Obeys a command of the terminal, given as its words. -/
def obey (player : Player) (words : List (List Char)) : Player :=
  let argument := words[1]?
  match String.ofList ((words[0]?).getD []) with
  | "quit" => { player with left := true }
  | "q" => { player with left := true }
  | "save" => player.withSlot argument player.save
  | "load" => player.withSlot argument player.load
  | "history" =>
    player.printAll
      ("  History" :: player.session.interpreter.history.entries.map historyLine)
  | "retry" => player.report player.session.retry
  | other => player.print ("  unknown command: :" ++ other)

/-- Picks an option by its number, counted from one. -/
def pick (player : Player) (answer : List Char) : Player :=
  match Text.boundedNumeral? Text.wordBound answer with
  | some (index + 1) => player.report (player.session.select index)
  | _ => player.print "  Pick an option by number."

/-- Answers what the story waits for. An empty answer to a question leaves the text as it was. -/
def answer (player : Player) (line : List Char) : Player :=
  let interpreter := player.session.interpreter
  match interpreter.status with
  | .choice => player.pick line
  | .input =>
    let text := if line.isEmpty then interpreter.initialInput else String.ofList line
    player.report (player.session.submitInput text)
  | .halted _ => player.print "  The story is halted. Use :retry or :quit."
  | _ => player.report player.session.advance

/-- Takes a line of input: a command of the terminal begins with a colon. -/
def receive (player : Player) (line : String) : Player :=
  match Text.trim line.toList with
  | ':' :: command => player.obey (Text.words command)
  | trimmed => player.answer trimmed

/-- Lets a title card go on when it is time. -/
def wake (player : Player) : Player :=
  player.report (player.session.tick player.session.interpreter.clock)

/-- What the player waits for, after a prompt for input or the last words. -/
def next (player : Player) : Player × PlayRequest :=
  let interpreter := player.session.interpreter
  if player.left || player.failure.isSome then (player, .stop)
  else
    match interpreter.status with
    | .completed => (player.printAll ["", "  The End"], .stop)
    | .titles (some milliseconds) =>
      if interpreter.timer.isSome then (player, .pause milliseconds)
      else (player.write "> ", .line)
    | _ => (player.write "> ", .line)

end Player

end VisualNovel
