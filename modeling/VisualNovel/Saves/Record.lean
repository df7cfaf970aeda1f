import VisualNovel.Calendar
import VisualNovel.Interpreter.Snapshot

/-!
# Save records

A save record holds what a game needs to go on: the position, the global map, what has changed in
the characters, the cast with its display fields, the scene, the log and the audio. A save file is
a record in a slot, with the name of the player and the time. Numbers that are not finite cannot be
saved, and `SaveRecord.nonFinite?` finds the first.
-/

namespace VisualNovel

/-- A character that is shown, with its display fields; an absent field is `null`. -/
structure VisibleCharacter where
  /-- The identifier. -/
  id : String
  /-- Where the character stands. -/
  position : Value
  /-- Where the character looks. -/
  orientation : Value
  /-- Whether the character is seen from behind. -/
  back : Value
  /-- A class for the renderer. -/
  customClass : Value
  /-- The size. -/
  scale : Value

/-- A saved game. -/
structure SaveRecord where
  /-- The unit. -/
  unitId : String
  /-- The position of the step. -/
  step : Nat
  /-- The positions to return to, the outermost first. -/
  callStack : List CallFrame
  /-- The global map. -/
  global : Dict Value
  /-- The changed fields of characters. -/
  deltas : Dict (Dict Value)
  /-- The characters that are shown, in order. -/
  visible : List VisibleCharacter
  /-- The scene. -/
  scene : Option String
  /-- The log; rebuilt from the unit when absent. -/
  history : Option (List HistoryEntry)
  /-- The audio streams that repeat, by identifier. -/
  audio : Dict AudioStream
  /-- The number of parts of a line that are shown. -/
  dialoguePart : Option Nat

/-- A saved game in a slot. -/
structure SaveFile where
  /-- The slot. -/
  slot : Nat
  /-- The time of the save in milliseconds. -/
  timestamp : Int
  /-- The time as a text. -/
  stamp : String
  /-- The name of the player. -/
  playerName : String
  /-- The game. -/
  game : SaveRecord

namespace VisibleCharacter

/-- A character without display fields. -/
def bare (id : String) : VisibleCharacter := ⟨id, .null, .null, .null, .null, .null⟩

/-- The display fields of a character. -/
def ofFields (id : String) (fields : Dict Value) : VisibleCharacter :=
  let field (key : String) : Value := (Dict.get? fields key).getD .null
  ⟨id, field "position", field "orientation", field "back", field "customClass", field "scale"⟩

/-- The display fields with their names, without absent ones. -/
def displayFields (character : VisibleCharacter) : List (String × Value) :=
  [("position", character.position), ("orientation", character.orientation),
    ("back", character.back), ("customClass", character.customClass),
    ("scale", character.scale)].filter fun field => !field.2.isNull

end VisibleCharacter

namespace SaveRecord

/-- The record of no game. -/
def empty : SaveRecord := ⟨"", 0, [], [], [], [], none, none, [], none⟩

/-- The path of the first number in the changed fields that is not finite. -/
def nonFiniteDelta? (deltas : Dict (Dict Value)) : Option String :=
  deltas.findSome? fun delta =>
    (Value.map delta.2).nonFinite? ("characterDataDelta." ++ delta.1)

/-- The path of the first number in the display fields that is not finite. -/
def nonFiniteDisplay? (visible : List VisibleCharacter) : Option String :=
  visible.zipIdx.findSome? fun (character, index) =>
    character.displayFields.findSome? fun field =>
      field.2.nonFinite? ("visibleCharacters[" ++ toString index ++ "]." ++ field.1)

/-- The path of the first number that is not finite: in the global map, in the changed fields, or
in the display fields. -/
def nonFinite? (game : SaveRecord) : Option String :=
  ((Value.map game.global).nonFinite? "globalData").or
    ((nonFiniteDelta? game.deltas).or (nonFiniteDisplay? game.visible))

end SaveRecord

namespace SaveFile

/-- Slots are words of 32 bits. -/
def slotBound : Nat := 4294967296

/-- A saved game at a time; a blank name stands for an unknown player. -/
def new (slot : Nat) (playerName : String) (game : SaveRecord) (now : Instant) : SaveFile where
  slot := slot
  timestamp := now.milliseconds
  stamp := Calendar.stamp now
  playerName := if (Text.trimmed playerName).isEmpty then "Unknown" else playerName
  game := game

/-- The name of a player as part of a file name. -/
def plainName (name : String) : String :=
  String.ofList (name.toList.map fun character =>
    if isAlphanumeric character then character else '-')

/-- The name of the file: slot, player and time. -/
def fileName (file : SaveFile) : String :=
  toString file.slot ++ "_" ++ plainName file.playerName ++ "_" ++ file.stamp ++ ".json"

/-- The time of the save, when it is representable. -/
def savedAt? (file : SaveFile) : Option Instant :=
  let time := Instant.ofMilliseconds file.timestamp
  if Instant.isRepresentable time then some time else none

end SaveFile

end VisualNovel
