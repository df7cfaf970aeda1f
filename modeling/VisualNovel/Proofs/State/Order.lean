import VisualNovel.Proofs.Equipment

/-!
# States with maps in order

Every map of a state keeps its keys in ascending order: the global map, the characters by their
identifiers, and what the characters have in their fields and in their derived data. What is read
from such a state is in order too.
-/

namespace VisualNovel

/-- A record of a character whose maps have their keys in order. -/
structure CharacterRecord.InOrder (data : CharacterRecord) : Prop where
  fields : (Value.map data.fields).Ordered
  sprites : data.sprites.Ordered
  equipment : ∀ item ∈ data.equipment, item.Ordered

/-- A character whose maps have their keys in order. -/
structure Character.InOrder (character : Character) : Prop where
  fields : (Value.map character.fields).Ordered
  sprites : character.sprites.Ordered
  equipment : ∀ item ∈ character.equipment, item.Ordered
  index : (Value.map character.equipmentBySlot).Ordered

namespace Character

variable {character : Character} {fields : Dict Value}

theorem ofRecord_inOrder {data : CharacterRecord} (inOrder : data.InOrder) (id : String) :
    (ofRecord id data).InOrder :=
  ⟨inOrder.fields, inOrder.sprites, inOrder.equipment,
    equipmentIndex_ordered inOrder.fields inOrder.equipment⟩

theorem InOrder.reindexed (inOrder : character.InOrder) : character.reindexed.InOrder :=
  ⟨inOrder.fields, inOrder.sprites, inOrder.equipment,
    equipmentIndex_ordered inOrder.fields inOrder.equipment⟩

theorem InOrder.changed (inOrder : character.InOrder) (ordered : (Value.map fields).Ordered) :
    InOrder { character with fields } :=
  ⟨ordered, inOrder.sprites, inOrder.equipment, inOrder.index⟩

theorem InOrder.derived? (inOrder : character.InOrder) {key : String} {value : Value}
    (found : character.derived? key = some value) : value.Ordered := by
  simp only [Character.derived?] at found
  split at found
  · cases found
    exact inOrder.sprites
  · split at found
    · cases found
      exact .list inOrder.equipment
    · split at found
      · cases found
        exact inOrder.index
      · cases found

end Character

namespace StateTree

/-- A state whose maps have their keys in order. -/
structure InOrder (state : StateTree) : Prop where
  sorted : Dict.Sorted state.characters
  characters : ∀ {id character}, state.character? id = some character → character.InOrder
  global : (Value.map state.global).Ordered

variable {state : StateTree}

theorem InOrder.replace (inOrder : state.InOrder) (id : String) {character : Character}
    (new : character.InOrder) :
    InOrder { state with characters := Dict.insert id character state.characters } := by
  refine ⟨inOrder.sorted.insert id character, ?_, inOrder.global⟩
  intro other found present
  simp only [character?] at present
  rw [Dict.get?_insert] at present
  split at present
  · cases present
    exact new
  · exact inOrder.characters present

theorem InOrder.touch (inOrder : state.InOrder) : state.touch.InOrder :=
  ⟨inOrder.sorted, inOrder.characters, inOrder.global⟩

theorem InOrder.rootMap? (inOrder : state.InOrder) {root : Root} {entries : Dict Value}
    (found : state.rootMap? root = some entries) : (Value.map entries).Ordered := by
  cases root with
  | global =>
      cases found
      exact inOrder.global
  | character id =>
      obtain ⟨character, present, rfl⟩ := Option.map_eq_some_iff.1 found
      exact (inOrder.characters present).fields

theorem InOrder.putRootMap (inOrder : state.InOrder) (root : Root) {entries : Dict Value}
    (ordered : (Value.map entries).Ordered) : (state.putRootMap root entries).InOrder := by
  cases root with
  | global => exact ⟨inOrder.sorted, inOrder.characters, ordered⟩
  | character id =>
      simp only [StateTree.putRootMap]
      split
      · exact inOrder
      · rename_i character found
        exact inOrder.replace id ((inOrder.characters found).changed ordered)

theorem InOrder.reindexRoot (inOrder : state.InOrder) (root : Root) :
    (state.reindexRoot root).InOrder := by
  cases root with
  | global => exact inOrder
  | character id =>
      simp only [StateTree.reindexRoot]
      split
      · exact inOrder
      · rename_i character found
        exact inOrder.replace id (inOrder.characters found).reindexed

/-- Putting the map of a root back changes nothing. -/
theorem InOrder.putRootMap_same (inOrder : state.InOrder) {root : Root} {entries : Dict Value}
    (found : state.rootMap? root = some entries) : state.putRootMap root entries = state := by
  cases root with
  | global =>
      cases found
      rfl
  | character id =>
      obtain ⟨character, present, rfl⟩ := Option.map_eq_some_iff.1 found
      simp only [StateTree.putRootMap]
      rw [present]
      have same : Dict.insert id character state.characters = state.characters :=
        inOrder.sorted.insert_same present
      change { state with characters := Dict.insert id character state.characters } = state
      rw [same]

/-! ## Reading -/

/-- What is read from a state in order is in order. -/
theorem InOrder.read? (inOrder : state.InOrder) {text : String} {value : Value}
    (found : state.read? text = some value) : value.Ordered := by
  simp only [StateTree.read?] at found
  simp only [Option.bind_eq_bind, Option.bind_eq_some_iff, Option.or_eq_some_iff] at found
  obtain ⟨path, -, ⟨root, first, route⟩, -, entries, rooted, found⟩ := found
  rcases found with found | ⟨-, found⟩
  · exact (inOrder.rootMap? rooted).lookup? found
  · simp only [readDerived?] at found
    split at found
    · simp only [Option.bind_eq_bind, Option.bind_eq_some_iff] at found
      obtain ⟨character, present, derived, named, found⟩ := found
      exact ((inOrder.characters present).derived? named).lookup? found
    · cases found

theorem InOrder.operandValue (inOrder : state.InOrder) (operand : String) :
    (Assignment.operandValue state operand).Ordered := by
  simp only [Assignment.operandValue]
  split
  · exact Value.ofFloat_ordered _
  · split
    · exact .text _
    · cases found : state.read? operand with
      | none => exact .text _
      | some value => exact inOrder.read? found

end StateTree

end VisualNovel
