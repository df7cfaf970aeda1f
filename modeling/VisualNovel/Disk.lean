import VisualNovel.Dict
import VisualNovel.Text.Trim

/-!
# Disks

A disk is a tree of directories and files, with a current directory. Paths are texts; names are
divided by slashes, and a path that does not begin with one starts at the current directory. A file
is a text, or bytes that are none.
-/

namespace VisualNovel

/-- A file or a directory. -/
inductive DiskNode where
  /-- A file and its text; bytes that are no text have none. -/
  | file (content : Option String)
  /-- A directory and its entries, by name. -/
  | directory (entries : List (String × DiskNode))

/-- Why an operation on a disk failed. -/
inductive DiskError where
  /-- Nothing stands at the path. -/
  | notFound
  /-- A name on the way is a file. -/
  | notDirectory
  /-- A directory stands in the place of a file. -/
  | isDirectory
  /-- A file stands in the place of a directory. -/
  | occupied
  /-- The file is no text. -/
  | notText
  /-- A name or the path is too long. -/
  | tooLong
  /-- The path holds the zero character. -/
  | invalidPath
  deriving DecidableEq

namespace DiskError

/-- The wording of an error. -/
def message : DiskError → String
  | .notFound => "no such file or directory"
  | .notDirectory => "not a directory"
  | .isDirectory => "is a directory"
  | .occupied => "file exists"
  | .notText => "the file is not valid text"
  | .tooLong => "file name too long"
  | .invalidPath => "invalid path"

/-- All errors. -/
def all : List DiskError :=
  [.notFound, .notDirectory, .isDirectory, .occupied, .notText, .tooLong, .invalidPath]

end DiskError

namespace DiskNode

/-- The node at the end of a route of names. -/
def find? : List String → DiskNode → Option DiskNode
  | [], node => some node
  | name :: names, .directory entries => (Dict.get? entries name).bind (find? names)
  | _ :: _, .file _ => none

/-- Puts a node at the end of a route; all but the last name have to be directories. -/
def put? (node : DiskNode) : List String → DiskNode → Option DiskNode
  | [], _ => some node
  | [name], .directory entries => some (.directory (Dict.insert name node entries))
  | name :: next :: names, .directory entries => do
    let child ← Dict.get? entries name
    let changed ← put? node (next :: names) child
    some (.directory (Dict.insert name changed entries))
  | _ :: _, .file _ => none

/-- Takes away the node at the end of a route. -/
def remove? : List String → DiskNode → Option DiskNode
  | [], _ => none
  | [name], .directory entries =>
    if Dict.contains entries name then some (.directory (Dict.erase name entries)) else none
  | name :: next :: names, .directory entries => do
    let child ← Dict.get? entries name
    let changed ← remove? (next :: names) child
    some (.directory (Dict.insert name changed entries))
  | _ :: _, .file _ => none

/-- Whether the node is a directory. -/
def isDirectory : DiskNode → Bool
  | .directory _ => true
  | .file _ => false

end DiskNode

/-- A disk: a tree, and the directory where relative paths start. -/
structure Disk where
  /-- The tree. -/
  tree : DiskNode
  /-- The names from the root to the current directory. -/
  current : List String

namespace Disk

/-- A disk without files. -/
def empty : Disk := ⟨.directory [], []⟩

/-- The greatest length of a name in bytes. -/
def nameLimit : Nat := 255

/-- The length in bytes that a path stays below. -/
def pathLimit : Nat := 4096

/-- The path of an entry behind the path of its directory. A path that begins with a slash replaces
the directory. -/
def join (directory path : String) : String :=
  if path.startsWith "/" || directory.isEmpty then path
  else if directory.endsWith "/" then directory ++ path
  else directory ++ "/" ++ path

/-- The names of a path; empty names and single dots count for nothing. -/
def components (path : String) : List String :=
  ((Text.splitOn '/' path.toList).map String.ofList).filter fun name =>
    name ≠ "" && name ≠ "."

/-- Goes one name further from a directory. -/
def enter (disk : Disk) (location : List String) (name : String) :
    Except DiskError (List String) :=
  match disk.tree.find? location with
  | none => .error .notFound
  | some (.file _) => .error .notDirectory
  | some (.directory _) =>
    if name = ".." then .ok location.dropLast
    else if name.utf8ByteSize > nameLimit then .error .tooLong
    else .ok (location ++ [name])

/-- The names from the root to the place of a path; the last one may be missing. -/
def locate (disk : Disk) (path : String) : Except DiskError (List String) :=
  if path.isEmpty then .error .notFound
  else if path.contains '\x00' then .error .invalidPath
  else if path.utf8ByteSize ≥ pathLimit then .error .tooLong
  else
    let start := if path.startsWith "/" then [] else disk.current
    (components path).foldlM disk.enter start

/-- The node at a path. -/
def node (disk : Disk) (path : String) : Except DiskError DiskNode := do
  let location ← disk.locate path
  match disk.tree.find? location with
  | none => .error .notFound
  | some node => .ok node

/-- Whether a file stands at the path. -/
def isFile (disk : Disk) (path : String) : Bool :=
  match disk.node path with
  | .ok (.file _) => true
  | _ => false

/-- Whether a directory stands at the path. -/
def isDirectory (disk : Disk) (path : String) : Bool :=
  match disk.node path with
  | .ok (.directory _) => true
  | _ => false

/-- Reads the text of a file. -/
def readText (disk : Disk) (path : String) : Except DiskError String := do
  match ← disk.node path with
  | .directory _ => .error .isDirectory
  | .file none => .error .notText
  | .file (some content) => .ok content

/-- The entries of a directory. -/
def entries (disk : Disk) (path : String) : Except DiskError (Dict DiskNode) := do
  match ← disk.node path with
  | .file _ => .error .notDirectory
  | .directory entries => .ok entries

/-- Writes a file, in the place of one that stands there. -/
def writeFile (disk : Disk) (path : String) (content : Option String) : Except DiskError Disk := do
  let location ← disk.locate path
  match disk.tree.find? location with
  | some (.directory _) => .error .isDirectory
  | _ =>
    match DiskNode.put? (.file content) location disk.tree with
    | some tree => .ok { disk with tree }
    | none => .error .notFound

/-- Writes a text file. -/
def writeText (disk : Disk) (path content : String) : Except DiskError Disk :=
  disk.writeFile path (some content)

/-- Makes the directory one name further, unless it is there. -/
def enterOrMake (step : Disk × List String) (name : String) :
    Except DiskError (Disk × List String) := do
  let (disk, location) := step
  let next ← disk.enter location name
  match disk.tree.find? next with
  | some (.directory _) => .ok (disk, next)
  | some (.file _) => .error .occupied
  | none =>
    match DiskNode.put? (.directory []) next disk.tree with
    | some tree => .ok ({ disk with tree }, next)
    | none => .error .notFound

/-- Makes a directory and those on the way to it. -/
def makeDirectories (disk : Disk) (path : String) : Except DiskError Disk :=
  if path.contains '\x00' then .error .invalidPath
  else if path.utf8ByteSize ≥ pathLimit then .error .tooLong
  else
    let start := if path.startsWith "/" then [] else disk.current
    ((components path).foldlM enterOrMake (disk, start)).map Prod.fst

/-- Removes a file. -/
def removeFile (disk : Disk) (path : String) : Except DiskError Disk := do
  match ← disk.node path with
  | .directory _ => .error .isDirectory
  | .file _ =>
    let location ← disk.locate path
    match disk.tree.remove? location with
    | some tree => .ok { disk with tree }
    | none => .error .notFound

/-- Divides a file name into stem and extension at its last dot; a dot in front belongs to the
stem. -/
def splitExtension (name : String) : String × Option String :=
  let characters := name.toList
  let extension := (characters.reverse.takeWhile fun character => character ≠ '.').reverse
  let stem := characters.take (characters.length - extension.length - 1)
  if extension.length = characters.length || stem.isEmpty || characters = ['.', '.'] then
    (name, none)
  else (String.ofList stem, some (String.ofList extension))

end Disk

end VisualNovel
