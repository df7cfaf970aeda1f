import VisualNovel.Content.Directory
import VisualNovel.Session.Basic

/-!
# Commands

The commands work on a disk and a content directory. A report is what a command leaves: the texts
for the standard output and for the error output, and the exit code.
-/

namespace VisualNovel

/-- Why a command failed. -/
inductive CommandError where
  /-- There is no content directory. -/
  | noDirectory (path : String)
  /-- The directory holds no story units. -/
  | noUnits (path : String)
  /-- The content has problems. -/
  | problems (count : Nat)
  /-- A session could not go on. -/
  | session (cause : SessionError)
  deriving DecidableEq

namespace CommandError

/-- The wording of an error. -/
def message : CommandError → String
  | .noDirectory path => "content directory '" ++ path ++ "' does not exist"
  | .noUnits path => "no story units found under '" ++ path ++ "'"
  | .problems count =>
    toString count ++ " problem" ++ (if count = 1 then "" else "s") ++ " found"
  | .session cause => cause.message

end CommandError

/-- What a command leaves. -/
structure Report where
  /-- The text on the standard output. -/
  output : String
  /-- The text on the error output. -/
  errors : String
  /-- The exit code: zero after a success, two after a command line that was refused. -/
  exitCode : Nat
  deriving DecidableEq

namespace Report

/-- Lines as a text, each ended by a line break. -/
def ofLines (lines : List String) : String :=
  String.join (lines.map (· ++ "\n"))

/-- The report of a command that succeeded. -/
def success (lines : List String) : Report := ⟨ofLines lines, "", 0⟩

/-- The report of a command that failed, after some lines on the error output. -/
def failure (error : CommandError) (lines : List String) : Report :=
  ⟨"", ofLines (lines ++ ["error: " ++ error.message]), 1⟩

end Report

/-- The directory of save files: the given one, or else `saves` in the content directory. -/
def savesDirectory (directory : String) (saves : Option String) : String :=
  saves.getD (Disk.join directory "saves")

/-- The content of a directory of a disk. -/
def contentAt (disk : Disk) (directory : String) : Content :=
  (ContentDirectory.mk disk directory).toContent

/-- Opens a session on a content directory, with its configuration and its rules. -/
def openSession (disk : Disk) (directory : String) (saves : Option String) :
    Except CommandError Session :=
  if !disk.isDirectory directory then .error (.noDirectory directory)
  else
    match Configuration.load disk directory with
    | .error cause => .error (.session cause)
    | .ok configuration =>
      let slots : SlotStore := .directory ⟨disk, savesDirectory directory saves⟩
      let session := Session.new (contentAt disk directory) slots configuration
      match session.loadRules disk directory with
      | (.error cause, _) => .error (.session cause)
      | (.ok _, opened) => .ok opened

end VisualNovel
