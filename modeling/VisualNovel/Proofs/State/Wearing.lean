import VisualNovel.Proofs.State.Order

/-!
# What characters wear

The index of a character tells which slot wears which item. Whatever is done to a state, by paths,
assignments, handles of any age or new fields, the index of every character in play is the one of
its slots, and its sprites and its catalogue are those that it was created with.

Every operation but bringing in and dropping characters amounts to new fields for each character,
with the index computed anew (`StateTree.Refits`); a run of operations composes these.
-/

namespace VisualNovel

namespace Character

/-- Whether a slot of the character refers to an item of the catalogue, with the entry of the index
that says so. -/
def Wears (character : Character) (slot : String) (entry : Value) : Prop :=
  ∃ slots reference itemId item,
    Dict.get? character.fields equipmentSlotsKey = some (.map slots) ∧
      Dict.get? slots slot = some reference ∧ reference.slotItem? = some itemId ∧
      (character.equipment.find? fun item =>
        (item.get? "id").bind Value.itemIdText? = some itemId) = some item ∧
      entry = indexEntry itemId item

/-- A character whose index is the one of its slots. -/
def Current (character : Character) : Prop :=
  character.equipmentBySlot = equipmentIndex character.fields character.equipment

variable {character : Character} {fields : Dict Value} {id : String} {data : CharacterRecord}

theorem ofRecord_current (id : String) (data : CharacterRecord) : (ofRecord id data).Current :=
  rfl

theorem withFields_current (character : Character) (fields : Dict Value) :
    (character.withFields fields).Current :=
  rfl

theorem Current.withFields_self (current : character.Current) :
    character.withFields character.fields = character := by
  obtain ⟨id, fields, sprites, equipment, index⟩ := character
  simp only [Current] at current
  subst current
  rfl

/-- New fields with the index of the old ones are fields with their own index. -/
theorem Current.changed (current : character.Current)
    (same : equipmentIndex character.fields character.equipment =
      equipmentIndex fields character.equipment) :
    { character with fields } = character.withFields fields := by
  obtain ⟨id, before, sprites, equipment, index⟩ := character
  simp only [Current] at current
  subst current
  simp only [withFields, reindexed]
  rw [same]

theorem equipped?_eq_some_iff {equipment : List Value} {reference entry : Value} :
    equipped? equipment reference = some entry ↔
      ∃ itemId item, reference.slotItem? = some itemId ∧
        (equipment.find? fun item =>
          (item.get? "id").bind Value.itemIdText? = some itemId) = some item ∧
        entry = indexEntry itemId item := by
  simp only [equipped?]
  simp only [Option.bind_eq_bind, Option.bind_eq_some_iff, Option.some.injEq]
  constructor
  · rintro ⟨itemId, refers, item, known, same⟩
    exact ⟨itemId, item, refers, known, same.symm⟩
  · rintro ⟨itemId, item, refers, known, same⟩
    exact ⟨itemId, refers, item, known, same.symm⟩

/-- The index of a character in order has an entry for what the character wears, and no other. -/
theorem get?_equipmentIndex (ordered : (Value.map character.fields).Ordered) (slot : String)
    (entry : Value) :
    Dict.get? (equipmentIndex character.fields character.equipment) slot = some entry ↔
      character.Wears slot entry := by
  have sought : equipmentIndex character.fields character.equipment =
      indexOf character.equipment (Dict.get? character.fields equipmentSlotsKey) := rfl
  rw [sought]
  cases found : Dict.get? character.fields equipmentSlotsKey with
  | none =>
      constructor
      · intro absurd
        cases absurd
      · intro ⟨slots, _, _, _, worn, _⟩
        rw [found] at worn
        cases worn
  | some value =>
      cases value with
      | map slots =>
          have sorted := (ordered.entry found).sorted
          change Dict.get? (slotIndex character.equipment slots) slot = some entry ↔ _
          rw [get?_slotIndex sorted, Option.bind_eq_some_iff]
          simp only [equipped?_eq_some_iff]
          constructor
          · intro ⟨reference, placed, itemId, item, rest⟩
            exact ⟨slots, reference, itemId, item, found, placed, rest⟩
          · intro ⟨others, reference, itemId, item, worn, placed, rest⟩
            rw [found] at worn
            cases worn
            exact ⟨reference, placed, itemId, item, rest⟩
      | _ =>
          constructor
          · intro absurd
            cases absurd
          · intro ⟨slots, _, _, _, worn, _⟩
            rw [found] at worn
            cases worn

end Character

namespace StateTree

/-- A state in order, where the index of every character is the one of its slots. -/
structure Current (state : StateTree) : Prop where
  inOrder : state.InOrder
  characters : ∀ {id character}, state.character? id = some character → character.Current

/-- A state that comes of another one by new fields for its characters. -/
structure Refits (before after : StateTree) : Prop where
  current : after.Current
  characters : ∀ id, ∃ fields,
    after.character? id = (before.character? id).map (Character.withFields · fields)

variable {state before between after : StateTree} {id : String} {character : Character}

theorem character?_replaced (state : StateTree) (id other : String) (character : Character) :
    { state with characters := Dict.insert id character state.characters }.character? other =
      if id = other then some character else state.character? other :=
  Dict.get?_insert ..

theorem empty_current : empty.Current where
  inOrder := ⟨List.Pairwise.nil, (by intro id character found; cases found),
    Value.emptyMap_ordered⟩
  characters := by
    intro id character found
    cases found

theorem Current.replace (current : state.Current) (id : String) {new : Character}
    (inOrder : new.InOrder) (indexed : new.Current) :
    Current { state with characters := Dict.insert id new state.characters } := by
  refine ⟨current.inOrder.replace id inOrder, ?_⟩
  intro other character present
  rw [character?_replaced] at present
  split at present
  · cases present
    exact indexed
  · exact current.characters present

theorem Current.touch (current : state.Current) : state.touch.Current :=
  ⟨current.inOrder.touch, current.characters⟩

/-! ## New fields -/

/-- Without a change, every character keeps its fields. -/
theorem Current.same (current : state.Current) (other : after.Current)
    (same : ∀ id, after.character? id = state.character? id) : Refits state after := by
  refine ⟨other, ?_⟩
  intro id
  rw [same]
  cases found : state.character? id with
  | none => exact ⟨[], rfl⟩
  | some character =>
      refine ⟨character.fields, ?_⟩
      rw [Option.map_some, (current.characters found).withFields_self]

theorem Current.refl (current : state.Current) : Refits state state :=
  current.same current fun _ => rfl

theorem Refits.trans (first : Refits before between) (second : Refits between after) :
    Refits before after := by
  refine ⟨second.current, ?_⟩
  intro id
  obtain ⟨earlier, between⟩ := first.characters id
  obtain ⟨later, after⟩ := second.characters id
  refine ⟨later, ?_⟩
  rw [after, between, Option.map_map]
  rfl

/-- New fields for one character are new fields for its state. -/
theorem Current.refit (current : state.Current) (found : state.character? id = some character)
    {fields : Dict Value} (ordered : (Value.map fields).Ordered) :
    Refits state
      { state with characters := Dict.insert id (character.withFields fields) state.characters } := by
  have inOrder : (character.withFields fields).InOrder :=
    ((current.inOrder.characters found).changed ordered).reindexed
  constructor
  · exact current.replace id inOrder (Character.withFields_current character fields)
  · intro other
    rw [character?_replaced]
    split
    · rename_i same
      subst same
      refine ⟨fields, ?_⟩
      rw [found]
      rfl
    · exact current.refl.characters other

/-! ## What the operations do -/

theorem Current.setGlobal (current : state.Current) {entries : Dict Value}
    (ordered : (Value.map entries).Ordered) : Refits state (state.setGlobal entries) :=
  current.same ⟨⟨current.inOrder.sorted, current.inOrder.characters, ordered⟩, current.characters⟩
    fun _ => rfl

/-- The maps that a way makes at a root change no index. -/
theorem Current.putOpened (current : state.Current) {root : Root} {entries opened : Dict Value}
    (found : state.rootMap? root = some entries)
    (opens : Value.Opened (.map entries) (.map opened)) :
    Refits state (state.putRootMap root opened) := by
  have ordered := opens.ordered (current.inOrder.rootMap? found)
  cases root with
  | global =>
      exact current.same
        ⟨⟨current.inOrder.sorted, current.inOrder.characters, ordered⟩, current.characters⟩
        fun _ => rfl
  | character id =>
      obtain ⟨character, present, rfl⟩ := Option.map_eq_some_iff.1 found
      simp only [putRootMap]
      rw [present]
      dsimp only
      have inOrder := (current.inOrder.characters present).fields
      have same := Character.opened_equipmentIndex inOrder opens character.equipment
      rw [(current.characters present).changed same]
      exact current.refit present ordered

theorem Current.resolve (current : state.Current) (path : String) :
    Refits state (state.resolve path).1 := by
  simp only [StateTree.resolve]
  split
  · exact current.refl
  · split
    · exact current.refl
    · split
      · exact current.refl
      · rename_i root first route _ _ _ entries found
        dsimp only
        have opens := Value.openRoute_opened (splitLast first route).2 (splitLast first route).1
          (.map entries)
        generalize Value.openRoute _ _ (.map entries) = outcome at opens ⊢
        obtain ⟨opened, place⟩ := outcome
        cases opened with
        | map opened => exact current.putOpened found opens
        | _ => exact current.refl

/-- Storing changes one entry of the map at the root. Unless the handle leads through the slots,
this is another entry than the slots. -/
theorem Current.set? (current : state.Current) {handle : Handle} {value : Value}
    (ordered : value.Ordered) (succeeds : state.set? handle value = some after) :
    Refits state after := by
  simp only [StateTree.set?] at succeeds
  simp only [Option.bind_eq_bind, Option.bind_eq_some_iff, Option.some.injEq] at succeeds
  obtain ⟨entries, found, stored, stores, fields, isMap, rfl⟩ := succeeds
  have stocked := (current.inOrder.rootMap? found).storeAt? ordered stores
  obtain ⟨name, child, rfl, touched⟩ := Value.storeAt?_map stores
  cases isMap
  cases root : handle.root with
  | global =>
      have same := current.setGlobal stocked
      split <;> exact same
  | character id =>
      rw [root] at found
      obtain ⟨character, present, rfl⟩ := Option.map_eq_some_iff.1 found
      have refit := current.touch.refit present stocked
      have touch := current.same current.touch fun _ => rfl
      simp only [putRootMap]
      rw [present]
      dsimp only
      split
      · simp only [reindexRoot]
        have holds : { state with
            characters := Dict.insert id
              { character with fields := Dict.insert name child character.fields }
              state.characters }.touch.character? id =
            some { character with fields := Dict.insert name child character.fields } :=
          (character?_replaced state.touch id id _).trans (if_pos rfl)
        rw [holds]
        simp only [StateTree.touch]
        rw [Dict.insert_insert]
        exact touch.trans refit
      · rename_i untouched
        have other : name ≠ equipmentSlotsKey := by
          intro same
          subst same
          exact untouched touched
        have same : Character.equipmentIndex character.fields character.equipment =
            Character.equipmentIndex (Dict.insert name child character.fields)
              character.equipment := by
          simp only [Character.equipmentIndex, Character.slots]
          rw [Dict.get?_insert, if_neg other]
        rw [(current.characters present).changed same]
        exact touch.trans refit

theorem Current.set (current : state.Current) (handle : Handle) {value : Value}
    (ordered : value.Ordered) : Refits state (state.set handle value).1 := by
  simp only [StateTree.set]
  split
  · rename_i succeeds
    exact current.set? ordered succeeds
  · exact current.refl

theorem Current.write (current : state.Current) (path : String) {value : Value}
    (ordered : value.Ordered) : Refits state (state.write path value).1 := by
  have resolved := current.resolve path
  simp only [StateTree.write]
  generalize state.resolve path = outcome at resolved ⊢
  obtain ⟨opened, place⟩ := outcome
  cases place with
  | none => exact resolved
  | some handle => exact resolved.trans (resolved.current.set handle ordered)

theorem Current.assigned (current : state.Current) (expression : String) :
    Refits state (state.assigned expression) := by
  unfold StateTree.assigned StateTree.assign
  split
  · exact current.refl
  · rename_i assignment _
    have resolved := current.resolve assignment.target
    generalize state.resolve assignment.target = outcome at resolved ⊢
    obtain ⟨opened, place⟩ := outcome
    cases place with
    | none => exact resolved
    | some handle =>
        apply resolved.trans
        apply resolved.current.set handle
        dsimp only
        split
        · exact resolved.current.inOrder.operandValue _
        · exact Value.ofFloat_ordered _

/-- Replacing the fields of a character, if it is in play. -/
theorem Current.replaceFields (current : state.Current) (id : String) {fields : Dict Value}
    (ordered : (Value.map fields).Ordered) :
    Refits state
      ((state.updateCharacter? id (Character.withFields · fields)).getD state) := by
  simp only [updateCharacter?]
  cases found : state.character? id with
  | none => exact current.refl
  | some character =>
      have touch := current.same current.touch fun _ => rfl
      exact touch.trans (current.touch.refit found ordered)

end StateTree

/-! ## Runs of operations -/

/-- An operation on a state. A handle may be of any age, or lead nowhere. -/
inductive StateOperation where
  /-- Adds or replaces a character. -/
  | insertCharacter (id : String) (data : CharacterRecord)
  /-- Resolves a path and stores at its place. -/
  | write (path : String) (value : Value)
  /-- Resolves a path, which may make maps. -/
  | resolve (path : String)
  /-- Stores through a handle. -/
  | set (handle : Handle) (value : Value)
  /-- Applies an assignment. -/
  | assign (expression : String)
  /-- Replaces the fields of a character. -/
  | replaceFields (id : String) (fields : Dict Value)
  /-- Replaces the global map. -/
  | setGlobal (global : Dict Value)
  /-- Drops all characters and global values. -/
  | clear

namespace StateOperation

/-- The maps that the operation brings along have their keys in order. -/
def InOrder : StateOperation → Prop
  | insertCharacter _ data => data.InOrder
  | write _ value => value.Ordered
  | set _ value => value.Ordered
  | replaceFields _ fields => (Value.map fields).Ordered
  | setGlobal global => (Value.map global).Ordered
  | _ => True

/-- The record that a character in play was created with, after the operation. -/
def created (id : String) (before : Option CharacterRecord) :
    StateOperation → Option CharacterRecord
  | insertCharacter other data => if other = id then some data else before
  | clear => none
  | _ => before

end StateOperation

/-- The record that the character in play was created with, after a run of operations: that of the
last one inserted under its identifier and not dropped. -/
def created? (operations : List StateOperation) (id : String) : Option CharacterRecord :=
  operations.foldl (StateOperation.created id) none

namespace StateTree

variable {state : StateTree}

/-- The state after an operation. -/
def perform (state : StateTree) : StateOperation → StateTree
  | .insertCharacter id data => state.insertCharacter (.ofRecord id data)
  | .write path value => (state.write path value).1
  | .resolve path => (state.resolve path).1
  | .set handle value => (state.set handle value).1
  | .assign expression => state.assigned expression
  | .replaceFields id fields =>
    (state.updateCharacter? id (Character.withFields · fields)).getD state
  | .setGlobal global => state.setGlobal global
  | .clear => state.clear

/-- The state after operations, one after the other. -/
def performAll (state : StateTree) (operations : List StateOperation) : StateTree :=
  operations.foldl perform state

/-- The characters of a state in order are those of records, up to their fields. -/
structure Holds (state : StateTree) (records : String → Option CharacterRecord) : Prop where
  current : state.Current
  characters : ∀ id, ∃ fields, state.character? id =
    (records id).map fun data => Character.ofRecord id { data with fields }

variable {records : String → Option CharacterRecord}

theorem empty_holds : empty.Holds fun _ => none :=
  ⟨empty_current, fun _ => ⟨[], rfl⟩⟩

/-- New fields leave each character with its record. -/
theorem Holds.refit (holds : state.Holds records) {after : StateTree} (refits : Refits state after) :
    after.Holds records := by
  refine ⟨refits.current, ?_⟩
  intro id
  obtain ⟨before, present⟩ := holds.characters id
  obtain ⟨fields, changed⟩ := refits.characters id
  refine ⟨fields, ?_⟩
  rw [changed, present, Option.map_map]
  rfl

/-- One operation keeps account of the records. -/
theorem Holds.perform (holds : state.Holds records) (operation : StateOperation)
    (ordered : operation.InOrder) :
    (state.perform operation).Holds fun id => operation.created id (records id) := by
  cases operation with
  | insertCharacter id data =>
      have new := Character.ofRecord_inOrder ordered id
      refine ⟨holds.current.touch.replace id new (Character.ofRecord_current id data), ?_⟩
      intro other
      have found : (state.insertCharacter (.ofRecord id data)).character? other =
          if id = other then some (.ofRecord id data) else state.character? other :=
        character?_replaced state.touch id other (.ofRecord id data)
      simp only [StateTree.perform, StateOperation.created]
      rw [found]
      split
      · rename_i same
        subst same
        exact ⟨data.fields, rfl⟩
      · exact holds.characters other
  | write path value => exact holds.refit (holds.current.write path ordered)
  | resolve path => exact holds.refit (holds.current.resolve path)
  | set handle value => exact holds.refit (holds.current.set handle ordered)
  | assign expression => exact holds.refit (holds.current.assigned expression)
  | replaceFields id fields => exact holds.refit (holds.current.replaceFields id ordered)
  | setGlobal global => exact holds.refit (holds.current.setGlobal ordered)
  | clear =>
      have none := empty_current.inOrder
      exact ⟨⟨⟨none.sorted, none.characters, none.global⟩, empty_current.characters⟩,
        fun _ => ⟨[], rfl⟩⟩

theorem Holds.performAll (holds : state.Holds records) {operations : List StateOperation}
    (ordered : ∀ operation ∈ operations, operation.InOrder) :
    (state.performAll operations).Holds fun id =>
      operations.foldl (StateOperation.created id) (records id) := by
  induction operations generalizing state records with
  | nil => exact holds
  | cons operation operations ih =>
      have first := holds.perform operation (ordered operation (List.mem_cons_self ..))
      exact ih first fun later member => ordered later (List.mem_cons_of_mem operation member)

/-- After any run of operations, the characters in play are those that were inserted and not
dropped. Each has the sprites and the catalogue it was created with, and its index is the one of its
slots: it shows what the character wears, and nothing else. -/
theorem performAll_equipmentBySlot {operations : List StateOperation}
    (ordered : ∀ operation ∈ operations, operation.InOrder) (id : String) :
    ((empty.performAll operations).character? id).isSome = (created? operations id).isSome ∧
      ∀ character, (empty.performAll operations).character? id = some character →
        ∃ data, created? operations id = some data ∧ character.id = id ∧
          character.sprites = data.sprites ∧ character.equipment = data.equipment ∧
          character.equipmentBySlot =
            Character.equipmentIndex character.fields character.equipment ∧
          ∀ slot entry, Dict.get? character.equipmentBySlot slot = some entry ↔
            character.Wears slot entry := by
  have holds := empty_holds.performAll ordered
  obtain ⟨fields, found⟩ := holds.characters id
  constructor
  · rw [found, Option.isSome_map]
    rfl
  · intro character present
    have indexed := holds.current.characters present
    have inOrder := holds.current.inOrder.characters present
    rw [found] at present
    obtain ⟨data, created, same⟩ := Option.map_eq_some_iff.1 present
    refine ⟨data, created, ?_, ?_, ?_, indexed, ?_⟩
    · rw [← same]
      rfl
    · rw [← same]
      rfl
    · rw [← same]
      rfl
    · intro slot entry
      rw [indexed]
      exact Character.get?_equipmentIndex inOrder.fields slot entry

/-- A coat of the catalogue. -/
def coat : Value :=
  .map [("id", .text "coat"), ("parts", .list [.text "sleeves"])]

/-- A character with a hat on, and a coat in the catalogue. -/
def hatted : CharacterRecord where
  fields := [("equipment_slots", .map [("head", .text "hat")])]
  sprites := .text "standing"
  equipment := [.map [("id", .text "hat")], coat]

/-- A run that takes the hat off by a handle of the fields before, and puts the coat on by a path
through a slot that has to be made. -/
def dressing : List StateOperation :=
  [.insertCharacter "mc" hatted, .replaceFields "mc" hatted.fields,
    .set ⟨.character "mc", [.key "equipment_slots"], .key "head"⟩ (.text "helmet"),
    .write "character.mc.equipment_slots.body.item.id" (.text "coat"),
    .assign "character.mc.mood.today = 'calm'"]

theorem hatted_inOrder : hatted.InOrder where
  fields := Value.emptyMap_ordered.insert "equipment_slots"
    (Value.emptyMap_ordered.insert "head" (.text "hat"))
  sprites := .text "standing"
  equipment := by
    intro item listed
    simp only [hatted, List.mem_cons, List.not_mem_nil, or_false] at listed
    rcases listed with same | same
    · rw [same]
      exact Value.emptyMap_ordered.insert "id" (.text "hat")
    · rw [same]
      have parts : (Value.list [.text "sleeves"]).Ordered :=
        .list fun part only => List.mem_singleton.1 only ▸ .text "sleeves"
      exact (Value.emptyMap_ordered.insert "parts" parts).insert "id" (.text "coat")

theorem performAll_equipmentBySlot_dressing :
    (∀ operation ∈ dressing, operation.InOrder) ∧
      ∃ character, (empty.performAll dressing).character? "mc" = some character ∧
        character.sprites = .text "standing" ∧ character.equipment = hatted.equipment ∧
        (∃ entry, character.Wears "body" entry ∧
          (entry.get? "id").bind Value.text? = some "coat") ∧
        ∀ entry, ¬ character.Wears "head" entry := by
  have ordered : ∀ operation ∈ dressing, operation.InOrder := by
    intro operation listed
    simp only [dressing, List.mem_cons, List.not_mem_nil, or_false] at listed
    rcases listed with same | same | same | same | same
    · rw [same]
      exact hatted_inOrder
    · rw [same]
      exact hatted_inOrder.fields
    · rw [same]
      exact .text "helmet"
    · rw [same]
      exact .text "coat"
    · rw [same]
      exact True.intro
  obtain ⟨present, known⟩ := performAll_equipmentBySlot ordered "mc"
  obtain ⟨character, found⟩ := Option.isSome_iff_exists.1 (present.trans rfl)
  obtain ⟨data, created, -, sprites, equipment, -, worn⟩ := known character found
  cases created
  have body : (((empty.performAll dressing).character? "mc").bind fun character =>
      (Dict.get? character.equipmentBySlot "body").bind fun entry =>
        (entry.get? "id").bind Value.text?) = some "coat" := by
    decide +kernel
  have head : (((empty.performAll dressing).character? "mc").bind fun character =>
      Dict.get? character.equipmentBySlot "head").isSome = false := by
    decide +kernel
  rw [found, Option.bind_some] at body head
  refine ⟨ordered, character, found, sprites, equipment, ?_, ?_⟩
  · obtain ⟨entry, indexed, named⟩ := Option.bind_eq_some_iff.1 body
    exact ⟨entry, (worn "body" entry).1 indexed, named⟩
  · intro entry wears
    rw [(worn "head" entry).2 wears] at head
    cases head

end StateTree

end VisualNovel
