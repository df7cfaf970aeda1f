import VisualNovel.Command.Run
import Std.Time.DateTime

/-!
# The program

The program reads the files of a content directory into a disk, runs a command on it, and writes
what the command changed in the directory of save files.
-/

namespace VisualNovel.Program

/-- The time of the machine. -/
def now : IO Instant := do
  let time ← Std.Time.Timestamp.now
  return time.toNanosecondsSinceUnixEpoch.val

/-- Puts what stands at a path of the machine onto the disk. -/
partial def mount (disk : Disk) (path : String) : IO Disk := do
  let place := System.mkFilePath [path]
  if ← place.isDir then
    let made := (disk.makeDirectories path).toOption.getD disk
    (← place.readDir).foldlM (fun disk entry => mount disk (Disk.join path entry.fileName)) made
  else if ← place.pathExists then
    let content ← try pure (String.fromUTF8? (← IO.FS.readBinFile place)) catch _ => pure none
    return (disk.writeFile path content).toOption.getD disk
  else return disk

/-- The disk that holds a content directory and a directory of save files. -/
def diskOf (directory : String) (saves : Option String) : IO Disk := do
  let current := (← IO.currentDir).toString
  let bare : Disk := ⟨.directory [], Disk.components current⟩
  let start := (bare.makeDirectories current).toOption.getD bare
  let made ←
    if ← (System.mkFilePath [directory]).isDir then
      pure ((start.makeDirectories directory).toOption.getD start)
    else pure start
  let parts := ["story", "characters", "scenes", Configuration.fileName, Session.rulesFileName]
  let paths := parts.map (Disk.join directory) ++ [savesDirectory directory saves]
  paths.foldlM mount made

/-- Makes the files of a directory of the machine what they became on the disk. -/
def store (old new : Disk) (path : String) : IO Unit := do
  let before := (old.entries path).toOption.getD []
  let after := (new.entries path).toOption.getD []
  for (name, node) in after do
    if let .file (some content) := node then
      match Dict.get? before name with
      | some (.file (some same)) =>
        if same ≠ content then
          IO.FS.writeFile (System.mkFilePath [Disk.join path name]) content
      | _ =>
        IO.FS.createDirAll (System.mkFilePath [path])
        IO.FS.writeFile (System.mkFilePath [Disk.join path name]) content
  for (name, node) in before do
    if !node.isDirectory && !Dict.contains after name then
      IO.FS.removeFile (System.mkFilePath [Disk.join path name])

/-- Prints a report; the result is the exit code. -/
def finish (report : Report) : IO UInt32 := do
  (← IO.getStdout).putStr report.output
  (← IO.getStderr).putStr report.errors
  return report.exitCode.toUInt32

/-- Plays until the player stops. -/
partial def play (player : Player) (disk : Disk) (saves : String) : IO UInt32 := do
  let (waiting, request) := player.next
  let output ← IO.getStdout
  output.putStr waiting.transcript
  output.flush
  let changed := waiting.session.slots.disk?.getD disk
  store disk changed saves
  let quiet := waiting.withoutTranscript
  match request with
  | .stop => finish quiet.finalReport
  | .pause milliseconds =>
    IO.sleep milliseconds.toUInt32
    play (quiet.atTime (← now)).wake changed saves
  | .line =>
    let line ← (← IO.getStdin).getLine
    if line.isEmpty then return 0
    else play ((quiet.atTime (← now)).receive line) changed saves

/-- The directories that a command works on. -/
def directories : Command → String × Option String
  | .help _ => (".", none)
  | .version _ => (".", none)
  | .check directory => (directory, none)
  | .saves directory saves => (directory, saves)
  | .delete directory saves _ => (directory, saves)
  | .play directory saves _ => (directory, saves)

/-- Runs a command; the result is the exit code. -/
def run (command : Command) : IO UInt32 := do
  let (directory, saves) := directories command
  let disk ← diskOf directory saves
  let place := savesDirectory directory saves
  match command with
  | .play _ _ options =>
    match Player.open? disk directory saves (← now) with
    | .error error => finish (.failure error [])
    | .ok player => play (player.enter options) disk place
  | command =>
    let (report, changed) := command.run (← now) 0 [] disk
    store disk changed place
    finish report

end VisualNovel.Program

/-- Runs the command of the command line. -/
def main (arguments : List String) : IO UInt32 := do
  match VisualNovel.Command.ofArguments arguments with
  | .ok command => VisualNovel.Program.run command
  | .error error => VisualNovel.Program.finish error.report
