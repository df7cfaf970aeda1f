import VisualNovel.Json.Reader
import VisualNovel.Saves.Document
import VisualNovel.Saves.Error

/-!
# Slots

A store keeps one save file a slot, in memory or in a directory. In a directory each file is a
document whose name begins with the slot. Of several files of one slot the latest readable one
counts; a file that cannot be read is passed over.
-/

namespace VisualNovel

/-- Accepts a save file whose numbers are all finite. -/
def SaveFile.ensureFinite (file : SaveFile) : Except SaveError SaveFile :=
  match file.game.nonFinite? with
  | some path => .error (.nonSerializable ("gameState." ++ path))
  | none => .ok file

/-- Save files in ascending order of their slots. -/
abbrev Slots := List (Nat × SaveFile)

namespace Slots

/-- The file in a slot. -/
def get? : Slots → Nat → Option SaveFile
  | [], _ => none
  | (slot, file) :: rest, wanted => if slot = wanted then some file else get? rest wanted

/-- Puts a file into a slot. -/
def insert (slot : Nat) (file : SaveFile) : Slots → Slots
  | [] => [(slot, file)]
  | (other, kept) :: rest =>
    if slot = other then (slot, file) :: rest
    else if slot < other then (slot, file) :: (other, kept) :: rest
    else (other, kept) :: insert slot file rest

/-- Empties a slot. -/
def erase (slot : Nat) (slots : Slots) : Slots :=
  slots.filter fun entry => entry.1 ≠ slot

end Slots

/-- A store in memory. -/
structure MemoryStore where
  /-- The save files, by slot. -/
  slots : Slots

namespace MemoryStore

/-- A store without files. -/
def empty : MemoryStore := ⟨[]⟩

/-- Puts a file into its slot. -/
def write (store : MemoryStore) (file : SaveFile) : Except SaveError MemoryStore :=
  file.ensureFinite.map fun file => ⟨Slots.insert file.slot file store.slots⟩

/-- The file in a slot. -/
def read (store : MemoryStore) (slot : Nat) : Except SaveError SaveFile :=
  match Slots.get? store.slots slot with
  | some file => .ok file
  | none => .error (.slotNotFound slot)

/-- All files in the order of their slots. -/
def list (store : MemoryStore) : List SaveFile :=
  store.slots.map Prod.snd

/-- Empties a slot. -/
def delete (store : MemoryStore) (slot : Nat) : Except SaveError MemoryStore :=
  (store.read slot).map fun _ => ⟨Slots.erase slot store.slots⟩

end MemoryStore

/-- A store in a directory of a disk. -/
structure DirectoryStore where
  /-- The disk. -/
  disk : Disk
  /-- The path of the directory. -/
  path : String

namespace DirectoryStore

/-- The slot that a file name begins with. -/
def slotOfName? (name : String) : Option Nat :=
  let characters := name.toList
  if characters.contains '_' then
    Text.boundedNumeral? SaveFile.slotBound (characters.takeWhile fun character => character ≠ '_')
  else none

/-- The slot of an entry of the directory, when it is a save file. -/
def memberSlot? (name : String) (node : DiskNode) : Option Nat :=
  if !node.isDirectory && (Disk.splitExtension name).2 = some "json" then slotOfName? name
  else none

/-- The names of all save files with their slots, in the order of slots and names. A missing
directory has none. -/
def slotFiles (store : DirectoryStore) : Except SaveError (List (Nat × String)) :=
  match store.disk.entries store.path with
  | .error .notFound => .ok []
  | .error cause => .error (.disk store.path cause)
  | .ok entries =>
    let files := entries.filterMap fun (name, node) => (memberSlot? name node).map (·, name)
    .ok (files.mergeSort fun left right =>
      left.1 < right.1 || (left.1 == right.1 && decide (left.2 ≤ right.2)))

/-- The path of a file of the directory. -/
def filePath (store : DirectoryStore) (name : String) : String :=
  Disk.join store.path name

/-- Reads a save file, if it can be read. -/
def readFile? (store : DirectoryStore) (name : String) : Option SaveFile := do
  let content ← (store.disk.readText (store.filePath name)).toOption
  let document ← Json.read? content
  SaveFile.ofJson? document

/-- Takes a file into account: the slot of its name is the slot it is in, and of two files of a
slot the later one counts, or the first when both are of one time. -/
def addLatest (store : DirectoryStore) (latest : Slots) (entry : Nat × String) : Slots :=
  match store.readFile? entry.2 with
  | none => latest
  | some read =>
    let file := { read with slot := entry.1 }
    let isLater := (Slots.get? latest entry.1).all fun other => other.timestamp < file.timestamp
    if isLater then Slots.insert entry.1 file latest else latest

/-- The latest file of every slot. -/
def latest (store : DirectoryStore) : Except SaveError Slots :=
  store.slotFiles.map fun files => files.foldl store.addLatest []

/-- Removes files from the directory, one after the other. -/
def removeFiles (store : DirectoryStore) : List String → Except SaveError DirectoryStore
  | [] => .ok store
  | name :: names =>
    match store.disk.removeFile (store.filePath name) with
    | .error cause => .error (.disk (store.filePath name) cause)
    | .ok disk => removeFiles { store with disk } names

/-- The names of the files of a slot, but for one that is kept. -/
def staleFiles (store : DirectoryStore) (slot : Nat) (kept : Option String) :
    Except SaveError (List String) :=
  store.slotFiles.map fun files =>
    (files.filter fun entry => entry.1 = slot && kept ≠ some entry.2).map Prod.snd

/-- Puts a file into its slot. Older files of the slot are removed once the new one is written. -/
def write (store : DirectoryStore) (file : SaveFile) : Except SaveError DirectoryStore := do
  let file ← file.ensureFinite
  let path := store.filePath file.fileName
  let prepared ← (store.disk.makeDirectories store.path).mapError (.disk store.path)
  let written ← (prepared.writeText path file.toJson.indented).mapError (.disk path)
  let changed := { store with disk := written }
  let stale ← changed.staleFiles file.slot (some file.fileName)
  changed.removeFiles stale

/-- The file in a slot. -/
def read (store : DirectoryStore) (slot : Nat) : Except SaveError SaveFile := do
  let latest ← store.latest
  match Slots.get? latest slot with
  | some file => .ok file
  | none => .error (.slotNotFound slot)

/-- All files in the order of their slots. -/
def list (store : DirectoryStore) : Except SaveError (List SaveFile) :=
  store.latest.map fun latest => latest.map Prod.snd

/-- Empties a slot. -/
def delete (store : DirectoryStore) (slot : Nat) : Except SaveError DirectoryStore := do
  let stale ← store.staleFiles slot none
  if stale.isEmpty then .error (.slotNotFound slot) else store.removeFiles stale

end DirectoryStore

/-- A store of either kind. -/
inductive SlotStore where
  /-- In memory. -/
  | memory (store : MemoryStore)
  /-- In a directory. -/
  | directory (store : DirectoryStore)

namespace SlotStore

/-- The disk of a store in a directory. -/
def disk? : SlotStore → Option Disk
  | .memory _ => none
  | .directory store => some store.disk

/-- The store with another disk; a store in memory has none. -/
def withDisk (disk : Disk) : SlotStore → SlotStore
  | .memory store => .memory store
  | .directory store => .directory { store with disk }

/-- Puts a file into its slot. -/
def write (store : SlotStore) (file : SaveFile) : Except SaveError SlotStore :=
  match store with
  | .memory store => (store.write file).map .memory
  | .directory store => (store.write file).map .directory

/-- The file in a slot. -/
def read (store : SlotStore) (slot : Nat) : Except SaveError SaveFile :=
  match store with
  | .memory store => store.read slot
  | .directory store => store.read slot

/-- All files in the order of their slots. -/
def list (store : SlotStore) : Except SaveError (List SaveFile) :=
  match store with
  | .memory store => .ok store.list
  | .directory store => store.list

/-- Empties a slot. -/
def delete (store : SlotStore) (slot : Nat) : Except SaveError SlotStore :=
  match store with
  | .memory store => (store.delete slot).map .memory
  | .directory store => (store.delete slot).map .directory

end SlotStore

end VisualNovel
