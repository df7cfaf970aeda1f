import VisualNovel.Content.Basic
import VisualNovel.Proofs.State.Order

/-!
# Characters in play

A character in play keeps the identifier, the sprites and the equipment that its content gave it, and
loses none of its fields. Its index of equipment always follows from its slots. Writing a path,
applying an assignment and replacing the global map keep this, and bring no character into play.
-/

namespace VisualNovel

/-- Content whose scenes load under their own identifiers, and whose maps have their keys in
order. -/
structure Content.Proper (content : Content) : Prop where
  scene : ∀ {id scene}, content.scene id = .ok scene → scene.id = id
  fields : ∀ {id data}, content.character id = .ok data → (Value.map data.fields).Ordered
  sprites : ∀ {id data}, content.character id = .ok data → data.sprites.Ordered
  equipment : ∀ {id data}, content.character id = .ok data → ∀ item ∈ data.equipment, item.Ordered

/-- A character in play that was loaded from a record. -/
structure Character.Plays (id : String) (data : CharacterRecord) (character : Character) :
    Prop where
  id : character.id = id
  sprites : character.sprites = data.sprites
  equipment : character.equipment = data.equipment
  ordered : (Value.map character.fields).Ordered
  kept : ∀ key, (Dict.get? data.fields key).isSome = true →
    (Dict.get? character.fields key).isSome = true
  indexed : character.equipmentBySlot =
    Character.equipmentIndex character.fields character.equipment

namespace Character

variable {id : String} {data : CharacterRecord} {character : Character} {entries : Dict Value}

theorem ofRecord_plays (ordered : (Value.map data.fields).Ordered) :
    (ofRecord id data).Plays id data :=
  ⟨rfl, rfl, rfl, ordered, fun _ present => present, rfl⟩

/-- A character with more fields plays on once its index is computed anew. -/
theorem Plays.withFields (plays : character.Plays id data) (ordered : (Value.map entries).Ordered)
    (grown : ∀ key, (Dict.get? character.fields key).isSome = true →
      (Dict.get? entries key).isSome = true) : (character.withFields entries).Plays id data :=
  ⟨plays.id, plays.sprites, plays.equipment, ordered,
    fun key present => grown key (plays.kept key present), rfl⟩

/-- A character with more fields plays on when its index is the same. -/
theorem Plays.changed (plays : character.Plays id data) (ordered : (Value.map entries).Ordered)
    (grown : ∀ key, (Dict.get? character.fields key).isSome = true →
      (Dict.get? entries key).isSome = true)
    (same : equipmentIndex character.fields character.equipment =
      equipmentIndex entries character.equipment) :
    Plays id data { character with fields := entries } :=
  ⟨plays.id, plays.sprites, plays.equipment, ordered,
    fun key present => grown key (plays.kept key present), plays.indexed.trans same⟩

end Character

namespace StateTree

/-- The characters in play come from the content, and the maps of the state are in order. -/
structure Cast (content : Content) (state : StateTree) : Prop where
  sorted : Dict.Sorted state.characters
  plays : ∀ {id character}, state.character? id = some character →
    ∃ data, content.character id = .ok data ∧ character.Plays id data
  global : (Value.map state.global).Ordered

/-- A state whose characters come from the content, with the same characters as another one. -/
structure Follows (content : Content) (before after : StateTree) : Prop where
  cast : after.Cast content
  members : ∀ id, (after.character? id).isSome = (before.character? id).isSome

variable {content : Content} {state before between after : StateTree}

theorem Follows.trans (first : Follows content before between)
    (second : Follows content between after) : Follows content before after :=
  ⟨second.cast, fun id => (second.members id).trans (first.members id)⟩

theorem Cast.follows (cast : state.Cast content) : Follows content state state :=
  ⟨cast, fun _ => rfl⟩

theorem Cast.touch (cast : state.Cast content) : Follows content state state.touch :=
  ⟨⟨cast.sorted, cast.plays, cast.global⟩, fun _ => rfl⟩

theorem Cast.setGlobal (cast : state.Cast content) {entries : Dict Value}
    (ordered : (Value.map entries).Ordered) : Follows content state (state.setGlobal entries) :=
  ⟨⟨cast.sorted, cast.plays, ordered⟩, fun _ => rfl⟩

/-- A character that plays on takes the place of the one in play. -/
theorem Cast.replace (cast : state.Cast content) {id : String} {old new : Character}
    (found : state.character? id = some old)
    (plays : ∀ {data}, old.Plays id data → new.Plays id data) :
    Follows content state
      { state with characters := Dict.insert id new state.characters } := by
  constructor
  · refine ⟨cast.sorted.insert id new, ?_, cast.global⟩
    intro other character present
    simp only [character?] at present
    rw [Dict.get?_insert] at present
    split at present
    · rename_i same
      cases present
      subst same
      obtain ⟨data, delivered, playing⟩ := cast.plays found
      exact ⟨data, delivered, plays playing⟩
    · exact cast.plays present
  · intro other
    simp only [character?] at found ⊢
    rw [Dict.get?_insert]
    split
    · rename_i same
      rw [← same, found]
      rfl
    · rfl

/-! ## Resolving -/

theorem isSome_insert {fields : Dict Value} (name : String) (child : Value) {key : String}
    (present : (Dict.get? fields key).isSome = true) :
    (Dict.get? (Dict.insert name child fields) key).isSome = true := by
  rw [Dict.get?_insert]
  split
  · rfl
  · exact present

theorem opened_kept {fields opened : Dict Value} (opens : Value.Opened (.map fields) (.map opened))
    (key : String) (present : (Dict.get? fields key).isSome = true) :
    (Dict.get? opened key).isSome = true := by
  cases opens with
  | same => exact present
  | entry container opens => exact isSome_insert _ _ present

/-- The maps that a way makes at a root leave the characters in play. -/
theorem Cast.putOpened (cast : state.Cast content) {root : Root} {entries opened : Dict Value}
    (found : state.rootMap? root = some entries)
    (opens : Value.Opened (.map entries) (.map opened)) :
    Follows content state (state.putRootMap root opened) := by
  cases root with
  | global =>
      cases found
      exact ⟨⟨cast.sorted, cast.plays, opens.ordered cast.global⟩, fun _ => rfl⟩
  | character id =>
      simp only [rootMap?] at found
      obtain ⟨character, present, rfl⟩ := Option.map_eq_some_iff.1 found
      simp only [putRootMap]
      rw [present]
      apply cast.replace present
      intro data plays
      exact plays.changed (opens.ordered plays.ordered) (opened_kept opens)
        (Character.opened_equipmentIndex plays.ordered opens _)

/-- Resolving a path makes at most a way. -/
theorem Cast.resolve (cast : state.Cast content) (text : String) :
    Follows content state (state.resolve text).1 := by
  simp only [StateTree.resolve]
  split
  · exact cast.follows
  · split
    · exact cast.follows
    · split
      · exact cast.follows
      · rename_i root first route _ _ _ entries found
        dsimp only
        have opens := Value.openRoute_opened (splitLast first route).2 (splitLast first route).1
          (.map entries)
        generalize Value.openRoute _ _ (.map entries) = outcome at opens ⊢
        obtain ⟨opened, place⟩ := outcome
        cases opened with
        | map opened => exact cast.putOpened found opens
        | _ => exact cast.follows

/-! ## Storing -/

/-- What is stored through a handle leaves the characters in play. -/
theorem Cast.set? (cast : state.Cast content) {handle : Handle} {value : Value}
    (ordered : value.Ordered) (succeeds : state.set? handle value = some after) :
    Follows content state after := by
  simp only [StateTree.set?] at succeeds
  simp only [Option.bind_eq_bind, Option.bind_eq_some_iff, Option.some.injEq] at succeeds
  obtain ⟨entries, found, stored, stores, fields, isMap, rfl⟩ := succeeds
  obtain ⟨name, child, rfl, touched⟩ := Value.storeAt?_map stores
  cases isMap
  cases root : handle.root with
  | global =>
      rw [root] at found
      cases found
      have global := cast.global.storeAt? ordered stores
      split <;> exact ⟨⟨cast.sorted, cast.plays, global⟩, fun _ => rfl⟩
  | character id =>
      rw [root] at found
      obtain ⟨character, present, rfl⟩ := Option.map_eq_some_iff.1 found
      have grown : ∀ key, (Dict.get? character.fields key).isSome = true →
          (Dict.get? (Dict.insert name child character.fields) key).isSome = true :=
        fun key present => isSome_insert name child present
      have inOrder := (cast.plays present).elim fun data known => known.2.ordered
      have stocked := inOrder.storeAt? ordered stores
      let changed : Character := { character with fields := Dict.insert name child character.fields }
      have put : (state.putRootMap (.character id) changed.fields).touch =
          { state.touch with characters := Dict.insert id changed state.characters } := by
        simp only [putRootMap]
        rw [present]
        rfl
      have holds : (state.putRootMap (.character id) changed.fields).touch.character? id =
          some changed := by
        rw [put]
        simp only [character?]
        rw [Dict.get?_insert, if_pos rfl]
      have touch := cast.touch
      split
      · simp only [reindexRoot]
        rw [holds, put]
        dsimp only
        rw [Dict.insert_insert]
        apply touch.trans
        apply touch.cast.replace present
        intro data plays
        exact plays.withFields stocked grown
      · rename_i untouched
        rw [put]
        apply touch.trans
        apply touch.cast.replace present
        intro data plays
        apply plays.changed stocked grown
        have other : name ≠ equipmentSlotsKey := by
          rintro rfl
          exact untouched touched
        change Character.indexOf _ (Dict.get? character.fields equipmentSlotsKey) =
          Character.indexOf _ (Dict.get? (Dict.insert name child character.fields) equipmentSlotsKey)
        rw [Dict.get?_insert, if_neg other]

theorem Cast.set (cast : state.Cast content) (handle : Handle) {value : Value}
    (ordered : value.Ordered) : Follows content state (state.set handle value).1 := by
  simp only [StateTree.set]
  split
  · rename_i succeeds
    exact cast.set? ordered succeeds
  · exact cast.follows

/-- Writing a path leaves the characters in play. -/
theorem Cast.write (cast : state.Cast content) (text : String) {value : Value}
    (ordered : value.Ordered) : Follows content state (state.write text value).1 := by
  have resolved := cast.resolve text
  simp only [StateTree.write]
  generalize state.resolve text = outcome at resolved ⊢
  obtain ⟨opened, place⟩ := outcome
  cases place with
  | none => exact resolved
  | some handle => exact resolved.trans (resolved.cast.set handle ordered)

/-! ## Assigning -/

/-- With content whose maps are in order, so are the maps of the state. -/
theorem Cast.inOrder (cast : state.Cast content) (proper : content.Proper) : state.InOrder where
  sorted := cast.sorted
  characters := by
    intro id character present
    obtain ⟨data, delivered, plays⟩ := cast.plays present
    have equipment : ∀ item ∈ character.equipment, item.Ordered := by
      rw [plays.equipment]
      exact proper.equipment delivered
    refine ⟨plays.ordered, ?_, equipment, ?_⟩
    · rw [plays.sprites]
      exact proper.sprites delivered
    · rw [plays.indexed]
      exact Character.equipmentIndex_ordered plays.ordered equipment
  global := cast.global

/-- An assignment leaves the characters in play. -/
theorem Cast.assigned (cast : state.Cast content) (proper : content.Proper)
    (expression : String) : Follows content state (state.assigned expression) := by
  unfold StateTree.assigned StateTree.assign
  split
  · exact cast.follows
  · rename_i assignment _
    have resolved := cast.resolve assignment.target
    generalize state.resolve assignment.target = outcome at resolved ⊢
    obtain ⟨opened, place⟩ := outcome
    cases place with
    | none => exact resolved
    | some handle =>
        apply resolved.trans
        apply resolved.cast.set handle
        dsimp only
        split
        · exact (resolved.cast.inOrder proper).operandValue _
        · exact Value.ofFloat_ordered _

end StateTree

end VisualNovel
