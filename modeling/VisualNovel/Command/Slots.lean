import VisualNovel.Command.Basic
import VisualNovel.Command.Table

/-!
# Listing and deleting saved games
-/

namespace VisualNovel

/-- The cells of a save file in the table of saved games. -/
def SaveFile.cells (file : SaveFile) : List String :=
  [toString file.slot, file.playerName, file.stamp, file.game.unitId, toString file.game.step]

/-- The table of saved games. -/
def savesTable (files : List SaveFile) : TextTable :=
  ⟨["Slot", "Player", "Saved", "Story", "Step"], files.map SaveFile.cells⟩

/-- The command that lists saved games. -/
def savesCommand (disk : Disk) (directory : String) (saves : Option String) : Report :=
  let store : DirectoryStore := ⟨disk, savesDirectory directory saves⟩
  match store.list with
  | .error cause => .failure (.session (.save cause)) []
  | .ok [] => .success ["  No saves found."]
  | .ok files =>
    .success ((savesTable files).lines ++ ["", "  " ++ toString files.length ++ " saves"])

/-- The command that deletes the saved games of a slot, with the disk after it. -/
def deleteCommand (disk : Disk) (directory : String) (saves : Option String) (slot : Nat) :
    Report × Disk :=
  let store : DirectoryStore := ⟨disk, savesDirectory directory saves⟩
  match store.delete slot with
  | .error cause => (.failure (.session (.save cause)) [], disk)
  | .ok after => (.success ["  Deleted save slot " ++ toString slot ++ "."], after.disk)

end VisualNovel
