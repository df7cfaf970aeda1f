import VisualNovel.Proofs.State.Resolving

/-!
# What a write changes

A write that is refused leaves the state as it is. One that is possible moves the revision by one
and puts its value at the place that its path leads to; the rest of the state stays as it was, but
for maps on the way to this place and for the index of equipment (`StateTree.Written`).
-/

namespace VisualNovel

/-- Whether a place is neither on the way to the place of a handle nor within it. -/
def Handle.Misses (handle : Handle) (root : Root) (place : List Segment) : Prop :=
  root = handle.root → ¬ place <+: handle.place ∧ ¬ handle.place <+: place

theorem Handle.prefix_place (handle : Handle) {place : List Segment}
    (leads : place <+: handle.container) : place <+: handle.place :=
  leads.trans (List.prefix_append _ _)

theorem Handle.ne_place (handle : Handle) {place : List Segment}
    (leads : place <+: handle.container) : place ≠ handle.place := by
  rintro rfl
  have longer := leads.length_le
  simp only [Handle.place, List.length_append, List.length_singleton] at longer
  omega

namespace StateTree

variable {state after : StateTree} {text : String} {handle : Handle} {value : Value}
variable {entries opened stored : Dict Value} {id : String} {character : Character}

/-- What becomes of a state when a value is put at the place of a handle. -/
structure Written (before after : StateTree) (handle : Handle) (value : Value) : Prop where
  /-- The revision moves by one. -/
  revision : after.revision = before.revision + 1
  /-- The handle reads the value. -/
  held : after.get? handle = some value
  /-- A place beside the one of the handle keeps what it holds. -/
  beside : ∀ root place, handle.Misses root place → after.at? root place = before.at? root place
  /-- On the way to the place there were containers at most, or null. -/
  passable : ∀ place, place <+: handle.container →
    (before.at? handle.root place).all Value.isPassable = true
  /-- On the way to the place, a list stays a list, and all else is a map afterwards. -/
  along : ∀ place, place <+: handle.container →
    (after.at? handle.root place).any Value.isContainer = true ∧
      ((after.at? handle.root place).bind Value.list?).isSome =
        ((before.at? handle.root place).bind Value.list?).isSome
  /-- The global map stays unless the handle leads there. -/
  global : handle.root ≠ .global → after.global = before.global
  /-- Other characters stay. -/
  others : ∀ id, handle.root ≠ .character id → after.character? id = before.character? id
  /-- The written character keeps all but its fields, and its index or that of its new fields. -/
  written : ∀ id, handle.root = .character id → ∃ old new,
    before.character? id = some old ∧ after.character? id = some new ∧ new.id = old.id ∧
      new.sprites = old.sprites ∧ new.equipment = old.equipment ∧
      (new.equipmentBySlot = old.equipmentBySlot ∨
        new.equipmentBySlot = Character.equipmentIndex new.fields new.equipment)

/-- The state with another map at the root of a handle, after storing through the handle. -/
def withStored (state : StateTree) (handle : Handle) (stored : Dict Value) : StateTree :=
  let changed := (state.putRootMap handle.root stored).touch
  if handle.touchesEquipment then changed.reindexRoot handle.root else changed

theorem withStored_putRootMap (state : StateTree) (handle : Handle) (opened stored : Dict Value) :
    (state.putRootMap handle.root opened).withStored handle stored =
      state.withStored handle stored := by
  simp only [withStored]
  rw [putRootMap_putRootMap]

theorem revision_withStored (state : StateTree) (handle : Handle) (stored : Dict Value) :
    (state.withStored handle stored).revision = state.revision + 1 := by
  have moved := congrArg (· + 1) (revision_putRootMap state handle.root stored)
  simp only [withStored]
  split
  · rw [revision_reindexRoot]
    exact moved
  · exact moved

/-- Where a map with the value in it can be stored, a handle stores it. -/
theorem set_eq (present : state.rootMap? handle.root = some entries)
    (stores : Value.storeAt? handle.key value handle.container (.map entries) =
      some (.map stored)) :
    state.set handle value = (state.withStored handle stored, true) := by
  simp only [set, set?]
  rw [present]
  simp only [Option.bind_eq_bind, Option.bind_some]
  rw [stores]
  rfl

theorem withStored_global (leads : handle.root = .global) :
    state.withStored handle stored = { state.touch with global := stored } := by
  simp only [withStored, leads]
  split <;> rfl

/-- Storing among the fields of a character changes nothing else of it, but for its index. -/
theorem withStored_character (leads : handle.root = .character id)
    (found : state.character? id = some character) (stored : Dict Value) :
    ∃ index, state.withStored handle stored =
        { state.touch with
          characters := Dict.insert id
            { character with fields := stored, equipmentBySlot := index } state.characters } ∧
      (index = character.equipmentBySlot ∨
        index = Character.equipmentIndex stored character.equipment) := by
  simp only [withStored, leads, putRootMap, found]
  split
  · refine ⟨Character.equipmentIndex stored character.equipment, ?_, .inr rfl⟩
    simp only [reindexRoot, character?, touch]
    rw [Dict.get?_insert, if_pos rfl]
    dsimp only
    rw [Dict.insert_insert]
    rfl
  · exact ⟨character.equipmentBySlot, rfl, .inl rfl⟩

/-- Storing at the root of a handle changes the map at this root alone. -/
theorem rootMap?_withStored (present : state.rootMap? handle.root = some entries) (root : Root) :
    (state.withStored handle stored).rootMap? root =
      if root = handle.root then some stored else state.rootMap? root := by
  cases leads : handle.root with
  | global =>
      rw [withStored_global leads]
      cases root <;> rfl
  | character id =>
      rw [leads] at present
      obtain ⟨character, found, -⟩ := Option.map_eq_some_iff.1 present
      obtain ⟨index, same, -⟩ := withStored_character leads found stored
      rw [same]
      cases root with
      | global => rfl
      | character other =>
          simp only [rootMap?, character?]
          rw [Dict.get?_insert]
          simp only [Root.character.injEq, eq_comm]
          split <;> rfl

theorem at?_withStored (present : state.rootMap? handle.root = some entries) (root : Root)
    (place : List Segment) :
    (state.withStored handle stored).at? root place =
      if root = handle.root then (Value.map stored).at? place else state.at? root place := by
  simp only [at?]
  rw [rootMap?_withStored present]
  split <;> rfl

/-- Storing a map at a root, where a value is put at the place of a handle, is writing it there. -/
theorem withStored_written (present : state.rootMap? handle.root = some entries)
    (put : Value.Put value handle.place (.map entries) (.map stored)) :
    Written state (state.withStored handle stored) handle value where
  revision := revision_withStored state handle stored
  held := by
    simp only [get?]
    rw [rootMap?_withStored present, if_pos rfl]
    exact Value.lookup?_of_at? put.at?
  beside := by
    intro root place misses
    rw [at?_withStored present]
    split
    · rename_i same
      subst same
      obtain ⟨above, below⟩ := misses rfl
      simp only [at?]
      rw [present]
      exact put.beside above below
    · rfl
  passable := by
    intro place leads
    simp only [at?]
    rw [present]
    exact put.passable (handle.prefix_place leads) (handle.ne_place leads)
  along := by
    intro place leads
    rw [at?_withStored present, if_pos rfl]
    simp only [at?]
    rw [present]
    exact put.along (handle.prefix_place leads) (handle.ne_place leads)
  global := by
    intro elsewhere
    cases leads : handle.root with
    | global => exact absurd leads elsewhere
    | character id =>
        rw [leads] at present
        obtain ⟨character, found, -⟩ := Option.map_eq_some_iff.1 present
        obtain ⟨index, same, -⟩ := withStored_character leads found stored
        rw [same]
        rfl
  others := by
    intro other elsewhere
    cases leads : handle.root with
    | global => rw [withStored_global leads]; rfl
    | character id =>
        rw [leads] at present elsewhere
        obtain ⟨character, found, -⟩ := Option.map_eq_some_iff.1 present
        obtain ⟨index, same, -⟩ := withStored_character leads found stored
        rw [same]
        simp only [character?]
        rw [Dict.get?_insert, if_neg fun equal => elsewhere (congrArg _ equal)]
  written := by
    intro id leads
    rw [leads] at present
    obtain ⟨character, found, -⟩ := Option.map_eq_some_iff.1 present
    obtain ⟨index, same, indexed⟩ := withStored_character leads found stored
    rw [same]
    refine ⟨character, { character with fields := stored, equipmentBySlot := index }, found, ?_,
      rfl, rfl, rfl, indexed⟩
    simp only [character?]
    rw [Dict.get?_insert, if_pos rfl]

/-- The same characters are in play after a write. -/
theorem Written.isSome_character? (written : Written state after handle value) (id : String) :
    (after.character? id).isSome = (state.character? id).isSome := by
  by_cases leads : handle.root = .character id
  · obtain ⟨old, new, before, now, -⟩ := written.written id leads
    rw [before, now]
    rfl
  · rw [written.others id leads]

/-! ## Writing -/

/-- Whether a path picks an item of a list by its identifier. -/
def picks (state : StateTree) (text : String) : Bool :=
  ((Path.parse? text).bind state.root?).any fun (root, first, route) =>
    (state.rootMap? root).any fun entries => Value.picks (first :: route) (.map entries)

/-- A write is refused and leaves the state, or it resolves its path and puts its value at the place
that this leads to. -/
theorem InOrder.write_cases (inOrder : state.InOrder) (text : String) (value : Value) :
    state.write text value = (state, false) ∨
      ∃ handle after, (state.resolve text).2 = some handle ∧
        state.write text value = (after, true) ∧ Written state after handle value ∧
        (state.picks text = false → after.read? text = some value) := by
  cases inOrder.resolves text with
  | inl lost =>
      left
      simp only [write]
      rw [lost]
  | inr found =>
      obtain ⟨opened, handle, paves, resolved⟩ := found
      obtain ⟨first, route, entries, asks, way⟩ := paves.way
      obtain ⟨held, stores⟩ := Option.isSome_iff_exists.1 (way.storeAt? rfl value)
      obtain ⟨name, child, rfl, -⟩ := Value.storeAt?_map stores
      have written := withStored_written asks.present (way.put rfl stores)
      right
      refine ⟨handle, _, congrArg Prod.snd resolved, ?_, written, ?_⟩
      · have stands := rootMap?_putRootMap asks.present opened
        simp only [write, resolved]
        rw [set_eq stands stores, withStored_putRootMap]
      · intro plain
        have unpicked : Value.picks (first :: route) (.map entries) = false := by
          simpa only [picks, asks.asked, asks.present, Option.any_some] using plain
        rw [← splitLast_eq] at unpicked
        have reads := way.reads rfl unpicked stores
        rw [splitLast_eq] at reads
        obtain ⟨path, parsed, asked⟩ := Option.bind_eq_some_iff.1 asks.asked
        simp only [StateTree.read?]
        rw [parsed, root?_congr written.isSome_character?]
        simp only [Option.bind_eq_bind, Option.bind_some]
        rw [asked]
        simp only [Option.bind_some]
        rw [rootMap?_withStored asks.present, if_pos rfl]
        simp only [Option.bind_some]
        rw [reads]
        rfl

/-- An assignment writes a value to its target, or is none and leaves the state. -/
theorem assign_eq (state : StateTree) (expression : String) :
    state.assign expression = (state, false) ∨
      ∃ target value, state.assign expression = state.write target value := by
  simp only [assign]
  split
  · exact .inl rfl
  · rename_i assignment _
    right
    split
    · rename_i resolved lost
      refine ⟨assignment.target, .null, ?_⟩
      simp only [write]
      rw [lost]
    · rename_i resolved handle found
      refine ⟨assignment.target, ?value, ?same⟩
      case same =>
        simp only [write]
        rw [found]

/-- A write or an assignment that is refused leaves the state as it is. A write that is possible
puts its value at the place that its path leads to, and what lies beside this place stays; the path
reads the value then, unless it picks an item by its identifier. -/
theorem write_exact (inOrder : state.InOrder) (text : String) (value : Value) :
    ((state.write text value).2 = false → (state.write text value).1 = state) ∧
      (∀ expression, (state.assign expression).2 = false →
        (state.assign expression).1 = state) ∧
      ((state.write text value).2 = true →
        ∃ handle, (state.resolve text).2 = some handle ∧
          Written state (state.write text value).1 handle value ∧
          (state.picks text = false →
            (state.write text value).1.read? text = some value)) := by
  have refused : ∀ target value, (state.write target value).2 = false →
      (state.write target value).1 = state := by
    intro target value fails
    rcases inOrder.write_cases target value with lost | ⟨handle, after, -, writes, -⟩
    · rw [lost]
    · rw [writes] at fails
      cases fails
  refine ⟨refused text value, ?_, ?_⟩
  · intro expression fails
    rcases state.assign_eq expression with none | ⟨target, assigned, writes⟩
    · rw [none]
    · rw [writes] at fails ⊢
      exact refused target assigned fails
  · intro succeeds
    rcases inOrder.write_cases text value with lost | ⟨handle, after, resolved, writes, rest⟩
    · rw [lost] at succeeds
      cases succeeds
    · rw [writes]
      exact ⟨handle, resolved, rest⟩

/-- A cellar with a coin in a bag, and a door that nobody has looked at yet. -/
def cellar : StateTree :=
  empty.setGlobal [("bag", .list [.map [("id", .text "coin")]]), ("door", .null)]

theorem cellar_inOrder : cellar.InOrder where
  sorted := List.Pairwise.nil
  characters := by
    intro id character absurd
    cases absurd
  global := by
    have coin : (Value.map [("id", .text "coin")]).Ordered :=
      Value.emptyMap_ordered.insert "id" (.text "coin")
    have bag : (Value.list [.map [("id", .text "coin")]]).Ordered :=
      .list fun item only => List.mem_singleton.1 only ▸ coin
    exact (Value.emptyMap_ordered.insert "door" .null).insert "bag" bag

theorem write_exact_cellar :
    cellar.InOrder ∧
      (cellar.write "global.bag.size.small" (.text "yes")).1 = cellar ∧
      (cellar.assign "global.bag[coin].id.worn = 'new'").1 = cellar ∧
      (cellar.write "global.door.lock.open" (.text "yes")).1.revision = 2 ∧
      (cellar.write "global.door.lock.open" (.text "yes")).1.read? "global.door.lock.open" =
        some (.text "yes") ∧
      (cellar.write "global.door.lock.open" (.text "yes")).1.at? .global
        [.key "bag", .index 0, .key "id"] = some (.text "coin") := by
  obtain ⟨refused, -, -⟩ :=
    write_exact cellar_inOrder "global.bag.size.small" (.text "yes")
  obtain ⟨-, unassigned, succeeds⟩ :=
    write_exact cellar_inOrder "global.door.lock.open" (.text "yes")
  obtain ⟨handle, resolved, written, reads⟩ := succeeds (by decide +kernel)
  have leads : (cellar.resolve "global.door.lock.open").2 =
      some ⟨.global, [.key "door", .key "lock"], .key "open"⟩ := by
    decide +kernel
  rw [leads] at resolved
  cases resolved
  refine ⟨cellar_inOrder, refused (by decide +kernel), unassigned _ (by decide +kernel), ?_,
    reads (by decide +kernel), ?_⟩
  · rw [written.revision]
    decide
  · rw [written.beside .global [.key "bag", .index 0, .key "id"] fun _ => by decide]
    rfl

end StateTree

end VisualNovel
