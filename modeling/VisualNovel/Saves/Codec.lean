import VisualNovel.Saves.Error
import VisualNovel.Saves.Markup
import VisualNovel.Saves.Record

/-!
# Capturing and restoring games

A codec knows the fields that characters had when they were loaded, their baselines. A record holds
only the fields that differ from them. To restore a record, the characters are loaded anew, the
changed fields and the display fields are laid over them, and the story goes on from the recorded
position.
-/

namespace VisualNovel

/-- The fields that characters had when they were loaded. -/
structure SaveCodec where
  /-- The fields, by character. -/
  baselines : Dict (Dict Value)

/-- The result of a restore, with the codec and the interpreter after it. -/
structure Restored where
  /-- The status of the story, or why the restore failed. -/
  result : Except SaveError Status
  /-- The codec after the restore. -/
  codec : SaveCodec
  /-- The interpreter after the restore. -/
  interpreter : Interpreter

namespace SaveCodec

/-- A codec without baselines. -/
def empty : SaveCodec := ⟨[]⟩

/-- A slot reference as it is saved: an object becomes the identifier of its item. -/
def sanitizedReference : Value → Value
  | .map entries => ((Value.map entries).slotItem?.map Value.text).getD (.map entries)
  | reference => reference

/-- Slots as they are saved. -/
def sanitizedSlots : Value → Value
  | .map slots => .map (Dict.mapValues sanitizedReference slots)
  | slots => slots

/-- The fields that are saved: all but derived data, with slots in their saved form. -/
def authoredFields (fields : Dict Value) : Dict Value :=
  (fields.filter fun field => !derivedKeys.contains field.1).map fun field =>
    (field.1, if field.1 = equipmentSlotsKey then sanitizedSlots field.2 else field.2)

/-- Remembers the fields of characters without a baseline. -/
def capture (codec : SaveCodec) (state : StateTree) : SaveCodec :=
  ⟨state.characters.foldl (fun baselines (id, character) =>
    if Dict.contains baselines id then baselines
    else Dict.insert id (authoredFields character.fields) baselines) codec.baselines⟩

/-- The baseline of a character. -/
def baseline? (codec : SaveCodec) (id : String) : Option (Dict Value) :=
  Dict.get? codec.baselines id

/-- The fields that differ from the baseline. -/
def changedFields (baseline fields : Dict Value) : Dict Value :=
  (authoredFields fields).filter fun field =>
    !(Dict.get? baseline field.1).any fun value => value == field.2

/-- The changed fields of the characters that have a baseline and differ from it. -/
def deltas (codec : SaveCodec) (state : StateTree) : Dict (Dict Value) :=
  state.characters.filterMap fun (id, character) =>
    (codec.baseline? id).bind fun baseline =>
      let changed := changedFields baseline character.fields
      if changed.isEmpty then none else some (id, changed)

/-- Accepts a record whose numbers are all finite. -/
def ensureFinite (game : SaveRecord) : Except SaveError SaveRecord :=
  match game.nonFinite? with
  | some path => .error (.nonSerializable path)
  | none => .ok game

/-- The record of a running story. -/
def serialize (codec : SaveCodec) (interpreter : Interpreter) : Except SaveError SaveRecord :=
  match interpreter.snapshot with
  | .error cause => .error (.story cause)
  | .ok snapshot =>
    let state := interpreter.state
    ensureFinite {
      unitId := snapshot.unitId
      step := snapshot.step
      callStack := snapshot.callStack
      global := state.global
      deltas := codec.deltas state
      visible := (snapshot.visible.filterMap state.character?).map fun character =>
        .ofFields character.id character.fields
      scene := snapshot.scene
      history := snapshot.history.map Markup.compactHistory
      audio := Dict.ofPairs ((snapshot.audio.filter AudioStream.looping).map fun stream =>
        (stream.id, stream))
      dialoguePart := snapshot.dialoguePart }

/-- The characters that a restore loads, each once and in ascending order. -/
def roster (codec : SaveCodec) (game : SaveRecord) (state : StateTree) : List String :=
  let ids := Dict.keys state.characters ++ Dict.keys codec.baselines ++ Dict.keys game.deltas
  Dict.keys (Dict.ofPairs (ids.map (·, ())))

/-- Lays fields over those of a character in play. -/
def overlay (state : StateTree) (id : String) (fields : List (String × Value)) : StateTree :=
  (state.updateCharacter? id fun character =>
    character.withFields (Dict.union character.fields fields)).getD state

/-- The state with the changed fields, the display fields and the global map of a record. -/
def overlaid (game : SaveRecord) (state : StateTree) : StateTree :=
  let changed := game.deltas.foldl (fun state delta => overlay state delta.1 delta.2) state
  let displayed := game.visible.foldl
    (fun state character => overlay state character.id character.displayFields) changed
  displayed.setGlobal game.global

/-- The position that a record holds. Each audio stream gets its key as identifier. -/
def position (game : SaveRecord) : Snapshot where
  unitId := game.unitId
  step := game.step
  callStack := game.callStack
  visible := game.visible.map VisibleCharacter.id
  scene := game.scene
  history := game.history
  audio := (game.audio.map fun (id, stream) => { stream with id }).filter AudioStream.looping
  dialoguePart := game.dialoguePart

/-- Restores a record. -/
def restore (codec : SaveCodec) (game : SaveRecord) (interpreter : Interpreter) : Restored :=
  match ensureFinite game with
  | .error error => ⟨.error error, codec, interpreter⟩
  | .ok game =>
    match interpreter.loadCharacters (codec.roster game interpreter.state) with
    | (.error cause, after) => ⟨.error (.story cause), codec, after⟩
    | (.ok _, after) =>
      let captured := codec.capture after.state
      let outcome := { after with state := overlaid game after.state }.resumeFrom (position game)
      ⟨outcome.result.mapError .story, captured, outcome.after⟩

end SaveCodec

end VisualNovel
