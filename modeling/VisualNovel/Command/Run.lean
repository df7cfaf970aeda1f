import VisualNovel.Command.Check
import VisualNovel.Command.Help
import VisualNovel.Command.Slots

/-!
# Running commands

A command is run on a disk, and a game is played with lines of input that are given beforehand.
Time passes only while a title card is shown.
-/

namespace VisualNovel

namespace Player

/-- Plays with lines of input until the game stops or the lines are used up, for at most `fuel`
events. -/
def playWith : (fuel : Nat) → List String → Player → Player
  | 0, _, player => player
  | fuel + 1, lines, player =>
    match player.next, lines with
    | (waiting, .stop), _ => waiting
    | (waiting, .pause milliseconds), _ =>
      let now := waiting.session.interpreter.clock.after milliseconds
      playWith fuel lines (waiting.atTime now).wake
    | (waiting, .line), [] => waiting
    | (waiting, .line), line :: rest => playWith fuel rest (waiting.receive line)

/-- The report of a game that has stopped. -/
def finalReport (player : Player) : Report :=
  match player.failure with
  | none => ⟨player.transcript, "", 0⟩
  | some error => { Report.failure error [] with output := player.transcript }

end Player

/-- The report of a command line that was refused. -/
def UsageError.report (error : UsageError) : Report :=
  ⟨"", Report.ofLines ["error: " ++ error.message], 2⟩

namespace Command

/-- Runs a command at a time, a game with lines of input and for at most `fuel` events. The results
are the report and the disk after it. -/
def run (now : Instant) (fuel : Nat) (lines : List String) (disk : Disk) :
    Command → Report × Disk
  | .help topic => (.success topic.page.lines, disk)
  | .version name => (.success [versionLine name], disk)
  | .check directory => (checkCommand disk directory, disk)
  | .saves directory place => (savesCommand disk directory place, disk)
  | .delete directory place slot => deleteCommand disk directory place slot
  | .play directory place options =>
    match Player.open? disk directory place now with
    | .error error => (.failure error [], disk)
    | .ok player =>
      let played := (player.enter options).playWith fuel lines
      (played.finalReport, played.session.slots.disk?.getD disk)

/-- Runs a command line. -/
def runLine (now : Instant) (fuel : Nat) (lines : List String) (disk : Disk)
    (arguments : List String) : Report × Disk :=
  match ofArguments arguments with
  | .error error => (error.report, disk)
  | .ok command => command.run now fuel lines disk

end Command

end VisualNovel
