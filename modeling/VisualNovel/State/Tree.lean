import VisualNovel.Character
import VisualNovel.Path

/-!
# The state tree

The state of a game: the characters in play, and a global map. A path starts in the global map or
at a character. Reading finds authored fields and, behind them, derived data. Writing first
resolves a path into a handle, which creates the maps on its way, and then stores through the
handle. Every change moves the revision.
-/

namespace VisualNovel

/-- Where a path starts. -/
inductive Root where
  /-- The global map. -/
  | global
  /-- The authored fields of a character. -/
  | character (id : String)
  deriving DecidableEq

/-- A resolved place: the route to a container, without selectors by identifier, and the key in
it. -/
structure Handle where
  /-- Where the route starts. -/
  root : Root
  /-- The route to the container. -/
  container : List Segment
  /-- The key or position in the container. -/
  key : Segment
  deriving DecidableEq

/-- The state of a game. -/
structure StateTree where
  /-- The characters in play, by identifier. -/
  characters : Dict Character
  /-- The global map. -/
  global : Dict Value
  /-- A counter that every change moves. -/
  revision : UInt64

namespace Value

/-- The key of a segment in a container, without selectors by identifier. A list may be extended
by one item. -/
def concreteKey? (container : Value) (segment : Segment) : Option Segment :=
  match container with
  | .map _ => some (.key segment.mapKey)
  | .list items =>
    match segment with
    | .key _ => none
    | .index position => if position ≤ items.length then some (.index position) else none
    | .element identifier => (positionOf? items identifier).map .index
  | _ => none

/-- The map entry to pass through: a missing or absent one becomes an empty map. -/
def passage (entries : Dict Value) (key : String) : Value :=
  match Dict.get? entries key with
  | none => emptyMap
  | some .null => emptyMap
  | some child => child

/-- Makes a way along the route and finds the concrete route and key at its end. The first result
is the value with the maps that were made, also when the way ends early. -/
def openRoute (last : Segment) : List Segment → Value → Value × Option (List Segment × Segment)
  | [], value => (value, (value.concreteKey? last).map ([], ·))
  | segment :: route, value =>
    match value with
    | .map entries =>
      let key := segment.mapKey
      let child := passage entries key
      if child.isContainer then
        let (opened, found) := openRoute last route child
        (.map (Dict.insert key opened entries),
          found.map fun (concrete, final) => (.key key :: concrete, final))
      else (value, none)
    | .list items =>
      match position? items segment with
      | none => (value, none)
      | some position =>
        match items[position]? with
        | none => (value, none)
        | some child =>
          if child.isContainer then
            let (opened, found) := openRoute last route child
            (.list (items.set position opened),
              found.map fun (concrete, final) => (.index position :: concrete, final))
          else (value, none)
    | _ => (value, none)

/-- Stores into a container under a concrete key. -/
def store? (container : Value) (key : Segment) (value : Value) : Option Value :=
  match container, key with
  | .map entries, .key name => some (.map (Dict.insert name value entries))
  | .list items, .index position =>
    if position < items.length then some (.list (items.set position value))
    else if position = items.length then some (.list (items ++ [value]))
    else none
  | _, _ => none

/-- Stores at the end of a concrete route. -/
def storeAt? (key : Segment) (value : Value) : List Segment → Value → Option Value
  | [], container => container.store? key value
  | .key name :: route, .map entries => do
    let child ← Dict.get? entries name
    let stored ← storeAt? key value route child
    some (.map (Dict.insert name stored entries))
  | .index position :: route, .list items => do
    let child ← items[position]?
    let stored ← storeAt? key value route child
    some (.list (items.set position stored))
  | _, _ => none

end Value

namespace Handle

/-- Whether the handle leads through the slots of a character. -/
def touchesEquipment (handle : Handle) : Bool :=
  (handle.container ++ [handle.key]).contains (.key equipmentSlotsKey)

end Handle

namespace StateTree

/-- The state without characters and global values. -/
def empty : StateTree := ⟨[], [], 0⟩

/-- The state marked as changed. -/
def touch (state : StateTree) : StateTree :=
  { state with revision := state.revision + 1 }

/-- A character in play. -/
def character? (state : StateTree) (id : String) : Option Character :=
  Dict.get? state.characters id

/-- Adds a character, or puts it in the place of the one with its identifier. -/
def insertCharacter (state : StateTree) (character : Character) : StateTree :=
  { state.touch with characters := Dict.insert character.id character state.characters }

/-- Changes a character in play; `none` when there is none. -/
def updateCharacter? (state : StateTree) (id : String) (update : Character → Character) :
    Option StateTree :=
  (state.character? id).map fun character =>
    { state.touch with characters := Dict.insert id (update character) state.characters }

/-- Replaces the global map. -/
def setGlobal (state : StateTree) (global : Dict Value) : StateTree :=
  { state.touch with global }

/-- Drops all characters and global values. -/
def clear (state : StateTree) : StateTree :=
  { state.touch with characters := [], global := [] }

/-- The root of a path and the segments behind it, of which there is at least one; a character has
to be in play. -/
def root? (state : StateTree) (path : Path) : Option (Root × Segment × List Segment) :=
  match path.segments with
  | .key space :: rest =>
    if space = "global" then
      match rest with
      | first :: route => some (.global, first, route)
      | [] => none
    else if space = "character" then
      match rest with
      | .key id :: first :: route =>
        if Dict.contains state.characters id then some (.character id, first, route) else none
      | _ => none
    else none
  | _ => none

/-- The map at a root. -/
def rootMap? (state : StateTree) : Root → Option (Dict Value)
  | .global => some state.global
  | .character id => (state.character? id).map Character.fields

/-- Puts a map at a root. The revision stays, and so does the index of equipment. -/
def putRootMap (state : StateTree) (root : Root) (entries : Dict Value) : StateTree :=
  match root with
  | .global => { state with global := entries }
  | .character id =>
    match state.character? id with
    | none => state
    | some character =>
      let changed := { character with fields := entries }
      { state with characters := Dict.insert id changed state.characters }

/-- Whether a segment under a root names derived data. -/
def isDerived (root : Root) (first : Segment) : Bool :=
  match root, first with
  | .character _, .key name => derivedKeys.contains name
  | _, _ => false

/-- Derived data of a character at the end of a route. -/
def readDerived? (state : StateTree) (root : Root) (first : Segment) (route : List Segment) :
    Option Value :=
  match root, first with
  | .character id, .key name => do
    let character ← state.character? id
    let derived ← character.derived? name
    derived.lookup? route
  | _, _ => none

/-- Reads a path: authored fields first, then derived data. -/
def read? (state : StateTree) (text : String) : Option Value := do
  let path ← Path.parse? text
  let (root, first, route) ← state.root? path
  let entries ← state.rootMap? root
  ((Value.map entries).lookup? (first :: route)).or (state.readDerived? root first route)

/-- The segments before the last one, and the last. -/
def splitLast (first : Segment) : List Segment → List Segment × Segment
  | [] => ([], first)
  | second :: route =>
    let (leading, last) := splitLast second route
    (first :: leading, last)

/-- Resolves a path for writing and makes the maps on its way. The state keeps the maps that were
made also when the path leads nowhere. -/
def resolve (state : StateTree) (text : String) : StateTree × Option Handle :=
  match (Path.parse? text).bind state.root? with
  | none => (state, none)
  | some (root, first, route) =>
    if isDerived root first then (state, none)
    else
      match state.rootMap? root with
      | none => (state, none)
      | some entries =>
        let (leading, last) := splitLast first route
        let (opened, found) := (Value.map entries).openRoute last leading
        let state := (opened.map?.map (state.putRootMap root)).getD state
        (state, found.map fun (container, key) => ⟨root, container, key⟩)

/-- Reads through a handle. -/
def get? (state : StateTree) (handle : Handle) : Option Value :=
  (state.rootMap? handle.root).bind fun entries =>
    (Value.map entries).lookup? (handle.container ++ [handle.key])

/-- Computes the index of equipment at a root anew. -/
def reindexRoot (state : StateTree) : Root → StateTree
  | .global => state
  | .character id =>
    match state.character? id with
    | none => state
    | some character =>
      { state with characters := Dict.insert id character.reindexed state.characters }

/-- Stores through a handle; `none` when its place is gone. -/
def set? (state : StateTree) (handle : Handle) (value : Value) : Option StateTree := do
  let entries ← state.rootMap? handle.root
  let stored ← Value.storeAt? handle.key value handle.container (.map entries)
  let changed := (state.putRootMap handle.root (← stored.map?)).touch
  some (if handle.touchesEquipment then changed.reindexRoot handle.root else changed)

/-- Stores through a handle and says whether it was possible. -/
def set (state : StateTree) (handle : Handle) (value : Value) : StateTree × Bool :=
  match state.set? handle value with
  | some stored => (stored, true)
  | none => (state, false)

/-- Resolves a path and stores at its place. -/
def write (state : StateTree) (text : String) (value : Value) : StateTree × Bool :=
  match state.resolve text with
  | (resolved, some handle) => resolved.set handle value
  | (resolved, none) => (resolved, false)

end StateTree

end VisualNovel
