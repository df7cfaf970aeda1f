import VisualNovel.Audio.Document
import VisualNovel.History.Document
import VisualNovel.Saves.Record
import VisualNovel.Story.Document

/-!
# Save records as documents

A record is an object whose fields may be left out, except within its parts. The log and the number
of shown parts are written when they are there; the identifiers of audio streams are the keys of
their object only.
-/

namespace VisualNovel

open Json (Fields optionalMember)

namespace VisibleCharacter

/-- The fields of a character that is shown. -/
def fieldNames : List String :=
  ["id", "position", "orientation", "back", "customClass", "scale"]

/-- Reads a character that is shown. -/
def ofJson? (document : Json) : Option VisibleCharacter := do
  let fields ← Json.recordFields? fieldNames document
  let id ← fields.required? "id" Json.text?
  let position ← fields.orDefault? "position" .null Value.ofJson?
  let orientation ← fields.orDefault? "orientation" .null Value.ofJson?
  let back ← fields.orDefault? "back" .null Value.ofJson?
  let customClass ← fields.orDefault? "customClass" .null Value.ofJson?
  let scale ← fields.orDefault? "scale" .null Value.ofJson?
  some ⟨id, position, orientation, back, customClass, scale⟩

/-- The document of a character that is shown. -/
def toJson (character : VisibleCharacter) : Json :=
  .object (("id", .text character.id) ::
    character.displayFields.map fun field => (field.1, field.2.toJson))

end VisibleCharacter

namespace SaveRecord

/-- The fields of a record. -/
def fieldNames : List String :=
  ["storyId", "stepIndex", "callStack", "globalData", "characterDataDelta", "visibleCharacters",
    "currentScene", "history", "audioStreams", "dialoguePart"]

/-- Reads a record. -/
def ofJson? (document : Json) : Option SaveRecord := do
  let fields ← Json.recordFields? fieldNames document
  let unitId ← fields.orDefault? "storyId" "start" Json.text?
  let step ← fields.orDefault? "stepIndex" 0 Json.natural?
  let callStack ← fields.orDefault? "callStack" [] (Json.listOf? CallFrame.ofJson?)
  let global ← fields.orDefault? "globalData" [] Value.mapOfJson?
  let deltas ← fields.orDefault? "characterDataDelta" [] (Json.dictOf? Value.mapOfJson?)
  let visible ← fields.orDefault? "visibleCharacters" [] (Json.listOf? VisibleCharacter.ofJson?)
  let scene ← fields.optional? "currentScene" Json.text?
  let history ← fields.optional? "history" (Json.listOf? HistoryEntry.ofJson?)
  let audio ← fields.orDefault? "audioStreams" [] (Json.dictOf? AudioStream.ofJson?)
  let dialoguePart ← fields.optional? "dialoguePart" Json.natural?
  some ⟨unitId, step, callStack, global, deltas, visible, scene, history, audio, dialoguePart⟩

/-- The document of the log. -/
def historyToJson (lines : List HistoryEntry) : Json :=
  .array (lines.map HistoryEntry.toJson)

/-- The document of a record. -/
def toJson (game : SaveRecord) : Json :=
  .object ([
    ("storyId", .text game.unitId),
    ("stepIndex", .natural game.step),
    ("callStack", .array (game.callStack.map CallFrame.toJson)),
    ("globalData", Value.mapToJson game.global),
    ("characterDataDelta", .object (Dict.mapValues Value.mapToJson game.deltas)),
    ("visibleCharacters", .array (game.visible.map VisibleCharacter.toJson)),
    ("currentScene", Json.ofOption Json.text game.scene)] ++
    optionalMember "history" historyToJson game.history ++
    [("audioStreams", .object (Dict.mapValues AudioStream.toJson game.audio))] ++
    optionalMember "dialoguePart" Json.natural game.dialoguePart)

end SaveRecord

namespace SaveFile

/-- The fields of a save file. -/
def fieldNames : List String := ["slot", "timestamp", "timestampFormatted", "mcName", "gameState"]

/-- Reads a slot. -/
def slotOfJson? (document : Json) : Option Nat :=
  document.natural?.filter (· < slotBound)

/-- Reads a save file. -/
def ofJson? (document : Json) : Option SaveFile := do
  let fields ← Json.recordFields? fieldNames document
  let slot ← fields.required? "slot" slotOfJson?
  let timestamp ← fields.required? "timestamp" Json.signed?
  let stamp ← fields.required? "timestampFormatted" Json.text?
  let playerName ← fields.required? "mcName" Json.text?
  let game ← fields.required? "gameState" SaveRecord.ofJson?
  some ⟨slot, timestamp, stamp, playerName, game⟩

/-- The document of a save file. -/
def toJson (file : SaveFile) : Json :=
  .object [("slot", .natural file.slot), ("timestamp", .integer file.timestamp),
    ("timestampFormatted", .text file.stamp), ("mcName", .text file.playerName),
    ("gameState", file.game.toJson)]

end SaveFile

end VisualNovel
