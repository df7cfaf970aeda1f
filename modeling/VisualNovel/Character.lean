import VisualNovel.Value

/-!
# Characters

A character has authored fields, which the game may write, and derived data for display: sprites,
a catalogue of equipment, and the index from slots to equipped items. The index follows from the
slots among the fields and the catalogue.
-/

namespace VisualNovel

/-- A character as a content source delivers it. -/
structure CharacterRecord where
  /-- The authored fields. -/
  fields : Dict Value
  /-- The sprite layers. -/
  sprites : Value
  /-- The catalogue of items that slots refer to. -/
  equipment : List Value

/-- A character in play. -/
structure Character where
  /-- The identifier. -/
  id : String
  /-- The authored fields. -/
  fields : Dict Value
  /-- The sprite layers. -/
  sprites : Value
  /-- The catalogue of items that slots refer to. -/
  equipment : List Value
  /-- The equipped items, by slot. -/
  equipmentBySlot : Dict Value

/-- The authored field that maps slots to items. -/
def equipmentSlotsKey : String := "equipment_slots"

/-- The names of derived data: readable through paths, never written and never saved. -/
def derivedKeys : List String := ["sprites", "equipment", "equipmentBySlot"]

namespace CharacterRecord

/-- Takes the derived data out of a single document; equipment that is no list counts as none. -/
def ofSingle (document : Dict Value) : CharacterRecord where
  fields := derivedKeys.foldl (fun fields key => Dict.erase key fields) document
  sprites := (Dict.get? document "sprites").getD .null
  equipment := ((Dict.get? document "equipment").bind Value.list?).getD []

end CharacterRecord

namespace Value

/-- The text of an item identifier: a text that is not empty, or a whole number. -/
def itemIdText? : Value → Option String
  | .text content => if content.isEmpty then none else some content
  | .int number => some (intText number)
  | _ => none

/-- The item that a slot refers to: by its identifier, by a map with one, or by a map that holds
the item. -/
def slotItem? (reference : Value) : Option String :=
  match reference with
  | .map _ =>
    ((reference.get? "id").bind itemIdText?).or
      (((reference.get? "item").bind fun item => item.get? "id").bind itemIdText?)
  | _ => itemIdText? reference

end Value

namespace Character

/-- The slots among authored fields. -/
def slots (fields : Dict Value) : Dict Value :=
  ((Dict.get? fields equipmentSlotsKey).bind Value.map?).getD []

/-- The entry of the index for an item of the catalogue. -/
def indexEntry (itemId : String) (item : Value) : Value :=
  .map [("id", .text itemId), ("item", item), ("parts", (item.get? "parts").getD (.list []))]

/-- The index entry of one slot reference; unknown items have none. -/
def equipped? (equipment : List Value) (reference : Value) : Option Value := do
  let itemId ← reference.slotItem?
  let item ← equipment.find? fun item =>
    (item.get? "id").bind Value.itemIdText? = some itemId
  some (indexEntry itemId item)

/-- The index of slots: each slot that refers to an item of the catalogue. -/
def equipmentIndex (fields : Dict Value) (equipment : List Value) : Dict Value :=
  (slots fields).filterMap fun entry =>
    (equipped? equipment entry.2).map fun indexed => (entry.1, indexed)

/-- The character of a record. -/
def ofRecord (id : String) (data : CharacterRecord) : Character where
  id := id
  fields := data.fields
  sprites := data.sprites
  equipment := data.equipment
  equipmentBySlot := equipmentIndex data.fields data.equipment

/-- The character with its index computed anew. -/
def reindexed (character : Character) : Character :=
  { character with equipmentBySlot := equipmentIndex character.fields character.equipment }

/-- The character with other authored fields. -/
def withFields (character : Character) (fields : Dict Value) : Character :=
  { character with fields }.reindexed

/-- The authored name. -/
def name? (character : Character) : Option String :=
  (Dict.get? character.fields "name").bind Value.text?

/-- Derived data by its name. -/
def derived? (character : Character) (key : String) : Option Value :=
  if key = "sprites" then some character.sprites
  else if key = "equipment" then some (.list character.equipment)
  else if key = "equipmentBySlot" then some (.map character.equipmentBySlot)
  else none

/-- Whether some slot holds the item. -/
def hasItem (character : Character) (itemId : String) : Bool :=
  (slots character.fields).any fun entry => entry.2.slotItem? = some itemId

end Character

end VisualNovel
