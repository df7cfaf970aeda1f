import VisualNovel.Proofs.Lists
import VisualNovel.Proofs.State.Marking
import VisualNovel.Proofs.Value.Documents
import VisualNovel.Saves.Document

/-!
# Saves as documents

A saved game is read from the form that the text of its document shows: what is left of its values is
read back, fields that are left out have the values that they are left out for, and the identifiers
of audio streams are not part of their documents.
-/

namespace VisualNovel

open Json (Fields optionalMember)

namespace Json

/-! ## Lists, dictionaries and records -/

theorem writtenItems_eq_map (items : List Json) : writtenItems items = items.map written := by
  induction items with
  | nil => rfl
  | cons item items ih => rw [writtenItems, ih, List.map_cons]

theorem writtenMembers_eq_map (members : Fields) :
    writtenMembers members = members.map fun member => (member.1, member.2.written) := by
  induction members with
  | nil => rfl
  | cons member members ih => rw [writtenMembers, ih, List.map_cons]

@[simp] theorem text?_text (value : String) : text? (.text value) = some value := rfl

@[simp] theorem natural?_natural (value : Nat) : natural? (natural value) = some value := rfl

@[simp] theorem nullable?_natural (value : Nat) :
    nullable? natural? (natural value) = some (some value) := rfl

@[simp] theorem nullable?_ofOption (value : Option String) :
    nullable? text? (ofOption .text value) = some value := by
  cases value <;> rfl

variable {α β : Type} {decode : Json → Option β} {encode : α → Json} {result : α → β}

/-- A list is read from the form that its text shows when each item is. -/
theorem listOf?_written {items : List α}
    (each : ∀ item ∈ items, decode (encode item).written = some (result item)) :
    listOf? decode (Json.array (items.map encode)).written = some (items.map result) := by
  rw [written, writtenItems_eq_map, List.map_map, listOf?, List.mapM_map]
  exact mapM_eq_some each

/-- A dictionary is read from the form that its text shows when each value is. -/
theorem dictOf?_written {entries : Dict α} (sorted : Dict.Sorted entries)
    (each : ∀ entry ∈ entries, decode (encode entry.2).written = some (result entry.2)) :
    dictOf? decode (Json.object (Dict.mapValues encode entries)).written =
      some (Dict.mapValues result entries) := by
  have read : ∀ entry ∈ entries, (decode (encode entry.2).written).map (entry.1, ·) =
      some (entry.1, result entry.2) := by
    intro entry member
    rw [each entry member]
    rfl
  have kept : Dict.Sorted (Dict.mapValues result entries) := List.pairwise_map.2 sorted
  rw [written, writtenMembers_eq_map, Dict.mapValues, List.map_map, dictOf?, List.mapM_map]
  exact (congrArg (Option.map Dict.ofPairs) (mapM_eq_some read)).trans
    (congrArg some kept.ofPairs_eq)

/-- Every member of a record with known and distinct names counts. -/
theorem knownMembers?_eq {names : List String} {members : Fields}
    (known : ∀ name ∈ members.map Prod.fst, name ∈ names)
    (distinct : (members.map Prod.fst).Nodup) : knownMembers? names members = some members := by
  have all : members.filter (fun member => names.contains member.1) = members := by
    rw [List.filter_eq_self]
    intro member member_mem
    exact List.contains_iff_mem.2 (known member.1 (List.mem_map_of_mem member_mem))
  simp only [knownMembers?, all, distinct, if_true]

namespace Fields

/-! ## Fields by their names -/

variable {α : Type} {key name : String} (decode : Json → Option α) (document : Json)
  (members : Fields)

theorem required?_cons_self :
    required? ((name, document) :: members) name decode = decode document := by
  rw [required?, List.lookup_cons_self, Option.bind_some]

theorem required?_cons_of_ne (other : name ≠ key) :
    required? ((key, document) :: members) name decode = required? members name decode := by
  rw [required?, List.lookup_cons, beq_false_of_ne other]
  rfl

variable (default : α)

theorem orDefault?_nil : orDefault? [] name default decode = some default := rfl

theorem orDefault?_cons_self :
    orDefault? ((name, document) :: members) name default decode = decode document := by
  rw [orDefault?, List.lookup_cons_self]

theorem orDefault?_cons_of_ne (other : name ≠ key) :
    orDefault? ((key, document) :: members) name default decode =
      orDefault? members name default decode := by
  simp only [orDefault?, List.lookup_cons, beq_false_of_ne other]

end Fields

end Json

/-! ## Parts of a record -/

theorem CallFrame.ofJson?_written (frame : CallFrame) :
    CallFrame.ofJson? frame.toJson.written = some frame := by
  change CallFrame.ofJson? (.object [("storyId", .text frame.unitId),
    ("stepIndex", .natural frame.step)]) = _
  rw [CallFrame.ofJson?, Json.recordFields?_members, Json.knownMembers?_eq (by simp) (by simp)]
  rfl

/-- The identifier of a stream is not part of its document. -/
theorem AudioStream.ofJson?_written (stream : AudioStream) :
    AudioStream.ofJson? stream.toJson.written = some { stream with id := "" } := by
  obtain ⟨id, kind, file, looping⟩ := stream
  change AudioStream.ofJson? (.object [("type", .text kind.name), ("file", .text file),
    ("loop", .bool looping)]) = _
  rw [AudioStream.ofJson?, Json.recordFields?_members,
    Json.knownMembers?_eq (by simp [AudioStream.fieldNames]) (by simp)]
  cases kind <;> rfl

/-- A line without a speaker or a step leaves the field out. -/
theorem HistoryEntry.ofJson?_written (line : HistoryEntry) :
    HistoryEntry.ofJson? line.toJson.written = some line := by
  obtain ⟨kind, speaker, text, step⟩ := line
  by_cases silent : speaker = ""
  · subst silent
    cases step with
    | none => cases kind <;> rfl
    | some step => cases kind <;> rfl
  · have document : HistoryEntry.toJson ⟨kind, speaker, text, step⟩ =
        .object ([("kind", .text kind.name), ("speaker", .text speaker), ("text", .text text)] ++
          Json.optionalMember "stepIndex" Json.natural step) := by
      simp [HistoryEntry.toJson, silent]
    rw [document]
    cases step with
    | none => cases kind <;> rfl
    | some step => cases kind <;> rfl

namespace VisibleCharacter

/-- A character that is shown as its record says, up to the numbers that are not finite. -/
def plain (character : VisibleCharacter) : VisibleCharacter where
  id := character.id
  position := character.position.plain
  orientation := character.orientation.plain
  back := character.back.plain
  customClass := character.customClass.plain
  scale := character.scale.plain

/-- The display fields of a character, absent ones as well. -/
def allFields (character : VisibleCharacter) : List (String × Value) :=
  [("position", character.position), ("orientation", character.orientation),
    ("back", character.back), ("customClass", character.customClass), ("scale", character.scale)]

theorem displayFields_eq_filter (character : VisibleCharacter) :
    character.displayFields = character.allFields.filter fun field => !field.2.isNull := rfl

/-- The members for fields that are not absent, each document in the form in which it is read. -/
def shownMembers (form : Json → Json) (fields : List (String × Value)) : Fields :=
  (fields.filter fun field => !field.2.isNull).map fun field => (field.1, form field.2.toJson)

/-- The document of a character, with the documents of its fields in the form in which they are
read. -/
def shown (form : Json → Json) (character : VisibleCharacter) : Json :=
  .object (("id", .text character.id) :: shownMembers form character.allFields)

/-- Reads a field that is left out when it is absent. -/
def readField? (form : Json → Json) (value : Value) : Option Value :=
  if value.isNull then some .null else Value.ofJson? (form value.toJson)

variable {fields : List (String × Value)} {form : Json → Json}

theorem written_toJson (character : VisibleCharacter) :
    character.toJson.written = character.shown Json.written := by
  rw [toJson, Json.written, Json.writtenMembers, Json.writtenMembers_eq_map, List.map_map]
  rfl

theorem names_shownMembers :
    ((shownMembers form fields).map Prod.fst).Sublist (fields.map Prod.fst) := by
  rw [shownMembers, List.map_map]
  exact List.filter_sublist.map _

theorem shownMembers_cons (field : String × Value) (fields : List (String × Value)) :
    shownMembers form (field :: fields) =
      if field.2.isNull then shownMembers form fields
      else (field.1, form field.2.toJson) :: shownMembers form fields := by
  simp only [shownMembers, List.filter_cons]
  cases field.2.isNull <;> rfl

theorem lookup_shownMembers (distinct : (fields.map Prod.fst).Nodup) {field : String × Value}
    (member : field ∈ fields) :
    (shownMembers form fields).lookup field.1 =
      if field.2.isNull then none else some (form field.2.toJson) := by
  induction fields with
  | nil => cases member
  | cons first fields ih =>
      obtain ⟨fresh, distinct⟩ := List.nodup_cons.1 distinct
      rw [shownMembers_cons]
      rcases List.mem_cons.1 member with rfl | member
      · have absent : (shownMembers form fields).lookup field.1 = none := by
          rw [List.lookup_eq_none_iff]
          intro entry entry_mem
          have named := names_shownMembers.subset (List.mem_map_of_mem entry_mem)
          simp only [bne_iff_ne]
          exact fun same => fresh (same ▸ named)
        split
        · exact absent
        · exact List.lookup_cons_self
      · have other : (field.1 == first.1) = false := by
          rw [beq_eq_false_iff_ne]
          exact fun same => fresh (same ▸ List.mem_map_of_mem member)
        rw [← ih distinct member]
        split
        · rfl
        · rw [List.lookup_cons, other]

theorem orDefault?_shownMembers (distinct : (fields.map Prod.fst).Nodup) {field : String × Value}
    (member : field ∈ fields) :
    Fields.orDefault? (shownMembers form fields) field.1 .null Value.ofJson? =
      readField? form field.2 := by
  rw [Fields.orDefault?, lookup_shownMembers distinct member, readField?]
  cases field.2.isNull <;> rfl

/-- A character is read field by field. -/
theorem ofJson?_shown (form : Json → Json) (character : VisibleCharacter) :
    ofJson? (character.shown form) = (do
      let position ← readField? form character.position
      let orientation ← readField? form character.orientation
      let back ← readField? form character.back
      let customClass ← readField? form character.customClass
      let scale ← readField? form character.scale
      some ⟨character.id, position, orientation, back, customClass, scale⟩) := by
  have names : ((("id", Json.text character.id) :: shownMembers form character.allFields).map
      Prod.fst).Sublist fieldNames :=
    names_shownMembers.cons_cons "id"
  have distinct : (character.allFields.map Prod.fst).Nodup := by
    simp [allFields]
  have read (key : String) (value : Value) (field : (key, value) ∈ character.allFields) :
      Fields.orDefault? (shownMembers form character.allFields) key .null Value.ofJson? =
        readField? form value :=
    orDefault?_shownMembers distinct field
  rw [shown, ofJson?, Json.recordFields?_members,
    Json.knownMembers?_eq (fun _ member => names.subset member)
      (names.nodup (by simp [fieldNames]))]
  simp only [Option.bind_eq_bind, Option.bind_some]
  simp only [Fields.orDefault?_cons_of_ne, ne_eq, String.reduceEq, not_false_eq_true]
  rw [read "position" character.position (by simp [allFields]),
    read "orientation" character.orientation (by simp [allFields]),
    read "back" character.back (by simp [allFields]),
    read "customClass" character.customClass (by simp [allFields]),
    read "scale" character.scale (by simp [allFields])]
  rfl

theorem readField?_written {value : Value} (ordered : value.Ordered) :
    readField? Json.written value = some value.plain := by
  rw [readField?]
  split
  · rename_i absent
    cases value with
    | null => rfl
    | _ => cases absent
  · exact Value.ofJson?_written ordered

theorem allFields_ordered {character : VisibleCharacter}
    (ordered : ∀ field ∈ character.displayFields, field.2.Ordered) :
    ∀ field ∈ character.allFields, field.2.Ordered := by
  intro field member
  cases absent : field.2.isNull with
  | true =>
      cases value : field.2 with
      | null => exact .null
      | _ =>
          rw [value] at absent
          cases absent
  | false => exact ordered field (List.mem_filter.2 ⟨member, by simp [absent]⟩)

/-- What is left of a character is read from the form that the text of its document shows. -/
theorem ofJson?_written {character : VisibleCharacter}
    (ordered : ∀ field ∈ character.displayFields, field.2.Ordered) :
    ofJson? character.toJson.written = some character.plain := by
  have read (key : String) (value : Value) (field : (key, value) ∈ character.allFields) :=
    readField?_written (allFields_ordered ordered (key, value) field)
  rw [written_toJson, ofJson?_shown, read "position" _ (by simp [allFields]),
    read "orientation" _ (by simp [allFields]), read "back" _ (by simp [allFields]),
    read "customClass" _ (by simp [allFields]), read "scale" _ (by simp [allFields])]
  rfl

end VisibleCharacter

/-! ## Records -/

namespace SaveRecord

/-- The record without the identifiers of its streams. -/
def withoutStreamIds (game : SaveRecord) : SaveRecord :=
  { game with audio := Dict.mapValues (fun stream => { stream with id := "" }) game.audio }

/-- The record that is left in a text: numbers that are not finite are absent. -/
def plain (game : SaveRecord) : SaveRecord :=
  { game with
    global := Value.plainEntries game.global
    deltas := Dict.mapValues Value.plainEntries game.deltas
    visible := game.visible.map VisibleCharacter.plain }

/-- A saved game whose dictionaries all have their keys in order. -/
structure Proper (game : SaveRecord) : Prop extends game.InOrder where
  delta : ∀ delta ∈ game.deltas, Dict.Sorted delta.2
  characters : Dict.Sorted game.deltas
  streams : Dict.Sorted game.audio

variable {game : SaveRecord}

/-- The members of a record, with the documents of its parts in the form in which they are read. -/
def shownFields (form : Json → Json) (game : SaveRecord) : Fields :=
  [("storyId", .text game.unitId),
    ("stepIndex", .natural game.step),
    ("callStack", form (.array (game.callStack.map CallFrame.toJson))),
    ("globalData", form (Value.mapToJson game.global)),
    ("characterDataDelta", form (.object (Dict.mapValues Value.mapToJson game.deltas))),
    ("visibleCharacters", form (.array (game.visible.map VisibleCharacter.toJson))),
    ("currentScene", Json.ofOption Json.text game.scene)] ++
    optionalMember "history" (fun lines => form (historyToJson lines)) game.history ++
    [("audioStreams", form (.object (Dict.mapValues AudioStream.toJson game.audio)))] ++
    optionalMember "dialoguePart" Json.natural game.dialoguePart

/-- Reads a log that is left out when there is none. -/
def readHistory? (form : Json → Json) :
    Option (List HistoryEntry) → Option (Option (List HistoryEntry))
  | none => some none
  | some lines => Json.nullable? (Json.listOf? HistoryEntry.ofJson?) (form (historyToJson lines))

theorem written_toJson (game : SaveRecord) :
    game.toJson.written = .object (game.shownFields Json.written) := by
  obtain ⟨unitId, step, callStack, global, deltas, visible, scene, history, audio, part⟩ := game
  cases scene <;> cases history <;> cases part <;> rfl

/-- The log and the number of parts are left out when there is none. -/
theorem names_shownFields (form : Json → Json) (game : SaveRecord) :
    ((game.shownFields form).map Prod.fst).Sublist fieldNames := by
  obtain ⟨unitId, step, callStack, global, deltas, visible, scene, history, audio, part⟩ := game
  cases history <;> cases part <;> simp [shownFields, optionalMember, fieldNames]

/-- A record is read part by part. -/
theorem ofJson?_shown (form : Json → Json) (game : SaveRecord) :
    ofJson? (.object (game.shownFields form)) = (do
      let callStack ← Json.listOf? CallFrame.ofJson?
        (form (.array (game.callStack.map CallFrame.toJson)))
      let global ← Value.mapOfJson? (form (Value.mapToJson game.global))
      let deltas ← Json.dictOf? Value.mapOfJson?
        (form (.object (Dict.mapValues Value.mapToJson game.deltas)))
      let visible ← Json.listOf? VisibleCharacter.ofJson?
        (form (.array (game.visible.map VisibleCharacter.toJson)))
      let history ← readHistory? form game.history
      let audio ← Json.dictOf? AudioStream.ofJson?
        (form (.object (Dict.mapValues AudioStream.toJson game.audio)))
      some ⟨game.unitId, game.step, callStack, global, deltas, visible, game.scene, history, audio,
        game.dialoguePart⟩) := by
  have names := names_shownFields form game
  rw [ofJson?, Json.recordFields?_members,
    Json.knownMembers?_eq (fun _ member => names.subset member)
      (names.nodup (by simp [fieldNames]))]
  cases log : game.history <;> cases part : game.dialoguePart <;>
    simp only [shownFields, optionalMember, readHistory?, log, part, List.cons_append,
      List.nil_append, List.append_nil, Fields.optional?, Fields.orDefault?_nil,
      Fields.orDefault?_cons_self, Fields.orDefault?_cons_of_ne, ne_eq, String.reduceEq,
      not_false_eq_true, Option.bind_eq_bind, Option.bind_some, Json.text?_text,
      Json.natural?_natural, Json.nullable?_ofOption, Json.nullable?_natural]

/-- What is left of a record is read from the form that the text of its document shows. -/
theorem ofJson?_written (proper : game.Proper) :
    ofJson? game.toJson.written = some game.plain.withoutStreamIds := by
  have callStack : Json.listOf? CallFrame.ofJson?
      (Json.array (game.callStack.map CallFrame.toJson)).written = some game.callStack :=
    (Json.listOf?_written fun frame _ => CallFrame.ofJson?_written frame).trans
      (congrArg some (List.map_id game.callStack))
  have global := Value.mapOfJson?_written proper.global
  have deltas : Json.dictOf? Value.mapOfJson?
      (Json.object (Dict.mapValues Value.mapToJson game.deltas)).written =
        some (Dict.mapValues Value.plainEntries game.deltas) :=
    Json.dictOf?_written proper.characters fun delta member =>
      Value.mapOfJson?_written (.map (proper.delta delta member) (proper.deltas delta member))
  have visible := Json.listOf?_written fun character member =>
    VisibleCharacter.ofJson?_written (proper.visible character member)
  have history : readHistory? Json.written game.history = some game.history := by
    cases game.history with
    | none => rfl
    | some lines =>
        exact congrArg (Option.map some) ((Json.listOf?_written fun line _ =>
          HistoryEntry.ofJson?_written line).trans (congrArg some (List.map_id lines)))
  have audio : Json.dictOf? AudioStream.ofJson?
      (Json.object (Dict.mapValues AudioStream.toJson game.audio)).written =
        some (Dict.mapValues (fun stream => { stream with id := "" }) game.audio) :=
    Json.dictOf?_written proper.streams fun stream _ => AudioStream.ofJson?_written stream.2
  rw [written_toJson, ofJson?_shown, callStack, global, deltas, visible, history, audio]
  rfl

end SaveRecord

/-! ## Files -/

namespace SaveFile

/-- The file without the identifiers of the streams in its game. -/
def withoutStreamIds (file : SaveFile) : SaveFile :=
  { file with game := file.game.withoutStreamIds }

variable {file : SaveFile}

/-- The document of a save file, with the document of its game in the form in which it is read. -/
def shown (form : Json → Json) (file : SaveFile) : Json :=
  .object [("slot", .natural file.slot), ("timestamp", .integer file.timestamp),
    ("timestampFormatted", .text file.stamp), ("mcName", .text file.playerName),
    ("gameState", form file.game.toJson)]

/-- A save file is read when its game is. -/
theorem ofJson?_shown (form : Json → Json) (slot : file.slot < slotBound)
    (time : file.timestamp < 9223372036854775808) :
    ofJson? (file.shown form) =
      (SaveRecord.ofJson? (form file.game.toJson)).map fun game => { file with game } := by
  have word : slotOfJson? (.natural file.slot) = some file.slot := by
    rw [slotOfJson?, Json.natural?_natural, Option.filter_some, decide_eq_true slot]
    rfl
  rw [shown, ofJson?, Json.recordFields?_members,
    Json.knownMembers?_eq (by simp [fieldNames]) (by simp)]
  simp only [Fields.required?_cons_self, Fields.required?_cons_of_ne, ne_eq, String.reduceEq,
    not_false_eq_true, Option.bind_eq_bind, Option.bind_some, Json.text?_text, word, Json.signed?,
    time, ↓reduceIte, Option.map_eq_bind, Function.comp_def]

/-- A save file is read from the form that the text of its document shows. -/
theorem ofJson?_written (slot : file.slot < slotBound)
    (time : file.timestamp < 9223372036854775808) (proper : file.game.Proper) :
    ofJson? file.toJson.written = some { file with game := file.game.plain.withoutStreamIds } := by
  change ofJson? (file.shown Json.written) = _
  rw [ofJson?_shown Json.written slot time, SaveRecord.ofJson?_written proper]
  rfl

end SaveFile

end VisualNovel
