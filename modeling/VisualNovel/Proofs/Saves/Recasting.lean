import VisualNovel.Proofs.Saves.Overlay
import VisualNovel.Proofs.Saves.Playing

/-!
# Characters of a restored story

A restore loads every character in play anew and lays the record over them. When the characters in
play are those of the save, each of them comes back from its content under the fields that were
saved, and the fields of a record whose numbers are finite equal themselves.
-/

namespace VisualNovel

/-- A state with the characters of another one, each as the content delivers it. -/
structure StateTree.Renewed (content : Content) (before after : StateTree) : Prop where
  members : ∀ id, (after.character? id).isSome = (before.character? id).isSome
  fresh : ∀ {id data}, (before.character? id).isSome = true → content.character id = .ok data →
    after.character? id = some (.ofRecord id data)

namespace SaveRecord

variable {deltas : Dict (Dict Value)} {visible : List VisibleCharacter}

/-- Changed fields whose numbers are finite equal themselves. -/
theorem nonFiniteDelta?_same {id key : String} {changed : Dict Value} {value : Value}
    (finite : nonFiniteDelta? deltas = none) (delta : Dict.get? deltas id = some changed)
    (found : Dict.get? changed key = some value) : (value == value) = true := by
  simp only [nonFiniteDelta?] at finite
  rw [List.findSome?_eq_none_iff] at finite
  have accepted := finite _ (Dict.mem_of_get? delta)
  have equal := Value.agree_get? (Value.sameEntries_of_finite accepted) key
  rw [found] at equal
  exact equal

/-- Display fields whose numbers are finite equal themselves. -/
theorem nonFiniteDisplay?_same {character : VisibleCharacter} {field : String × Value}
    (finite : nonFiniteDisplay? visible = none) (member : character ∈ visible)
    (shown : field ∈ character.displayFields) : (field.2 == field.2) = true := by
  simp only [nonFiniteDisplay?] at finite
  rw [List.findSome?_eq_none_iff] at finite
  obtain ⟨index, position⟩ := List.mem_iff_getElem?.1 member
  have accepted := finite _ (List.mk_mem_zipIdx_iff_getElem?.2 position)
  rw [List.findSome?_eq_none_iff] at accepted
  exact Value.same_of_finite (accepted field shown)

end SaveRecord

namespace SaveCodec

variable {content : Content} {settings : StorySettings} {codec : SaveCodec} {game : SaveRecord}
variable {interpreter : Interpreter} {state ready : StateTree} {id : String}

/-! ## Loading anew -/

theorem mem_roster : id ∈ codec.roster game state ↔ (state.character? id).isSome = true ∨
    (codec.baseline? id).isSome = true ∨ (Dict.get? game.deltas id).isSome = true := by
  simp only [roster, Dict.ofPairs]
  rw [Dict.mem_keys_union, List.map_map]
  have plain : (Prod.fst ∘ fun name : String => (name, ())) = fun name => name := rfl
  rw [plain, List.map_id', List.mem_append, List.mem_append, Dict.mem_keys, Dict.mem_keys,
    Dict.mem_keys, Dict.mem_keys, or_assoc]
  simp only [Dict.get?_nil, Option.isSome_none, Bool.false_eq_true, false_or]
  rfl

/-- A restore loads exactly the characters in play, when the record has no others. -/
theorem Faithful.reload (faithful : Faithful content settings codec interpreter)
    (proper : content.Proper) (known : ∀ id, (Dict.get? game.deltas id).isSome = true →
      (interpreter.state.character? id).isSome = true) :
    ∃ ready, interpreter.loadCharacters (codec.roster game interpreter.state) =
        (.ok (codec.roster game interpreter.state), ready) ∧
      Faithful content settings (codec.capture ready.state) ready ∧
      interpreter.state.Renewed content ready.state := by
  generalize asked : codec.roster game interpreter.state = ids
  have source : interpreter.content = content := faithful.sound.source
  have roster : ∀ id, id ∈ ids ↔ (interpreter.state.character? id).isSome = true := by
    intro id
    rw [← asked, mem_roster]
    constructor
    · rintro (present | captured | changed)
      · exact present
      · cases present : (interpreter.state.character? id).isSome with
        | true => rfl
        | false =>
            rw [faithful.absent id present] at captured
            cases captured
      · exact known id changed
    · exact .inl
  have delivered : ∀ id ∈ ids, ∃ data, content.character id = .ok data := by
    intro id member
    obtain ⟨character, found⟩ := Option.isSome_iff_exists.1 ((roster id).1 member)
    obtain ⟨data, delivers, -⟩ := faithful.cast.plays found
    exact ⟨data, delivers⟩
  obtain ⟨succeeds, loaded⟩ := Interpreter.loadEach_known proper source faithful.cast delivered
  have state := Interpreter.loadCharacters_state interpreter ids
  have result := Interpreter.loadCharacters_ok succeeds
  have ready := faithful.load proper ids
  generalize interpreter.loadCharacters ids = outcome at state result ready
  obtain ⟨first, after⟩ := outcome
  dsimp only at state result ready
  subst result
  refine ⟨after, rfl, ready, ?_, ?_⟩
  · intro id
    rw [state]
    by_cases member : id ∈ ids
    · obtain ⟨data, -, put⟩ := loaded id member
      rw [put, (roster id).1 member]
      rfl
    · rw [Interpreter.loadEach_other member]
  · intro id data present delivers
    obtain ⟨other, same, put⟩ := loaded id ((roster id).2 present)
    rw [delivers] at same
    cases same
    rw [state]
    exact put

/-! ## Laying a record over the characters -/

/-- The fields of a character in play, or none. -/
def fieldsOf (state : StateTree) (id : String) : Dict Value :=
  ((state.character? id).map Character.fields).getD []

/-- The shown characters of a record are the ones on screen, in order. -/
theorem shown_eq {visible : List String} (shown : ∀ id ∈ visible,
      ∃ character, state.character? id = some character ∧ character.id = id) :
    ((visible.filterMap state.character?).map fun character =>
        VisibleCharacter.ofFields character.id character.fields) =
      visible.map fun id => .ofFields id (fieldsOf state id) := by
  induction visible with
  | nil => rfl
  | cons id visible ih =>
      obtain ⟨character, found, named⟩ := shown id (List.mem_cons_self ..)
      have rest := ih fun other member => shown other (List.mem_cons_of_mem id member)
      have first : VisibleCharacter.ofFields character.id character.fields =
          .ofFields id (fieldsOf state id) := by
        simp only [fieldsOf]
        rw [named, found]
        rfl
      rw [List.filterMap_cons_some found, List.map_cons, List.map_cons, rest, first]

/-- The characters on screen are in play under their identifiers. -/
theorem Faithful.named (faithful : Faithful content settings codec interpreter) :
    ∀ id ∈ interpreter.visible,
      ∃ character, interpreter.state.character? id = some character ∧ character.id = id := by
  intro id member
  obtain ⟨character, found⟩ := Option.isSome_iff_exists.1 (faithful.shown id member)
  obtain ⟨data, -, plays⟩ := faithful.cast.plays found
  exact ⟨character, found, plays.id⟩

/-- A state with the characters of a saved one, each from its content under the fields that were
saved. -/
structure Recast (content : Content) (visible : List String) (saved restored : StateTree) :
    Prop where
  sorted : Dict.Sorted restored.characters
  members : ∀ id, (restored.character? id).isSome = (saved.character? id).isSome
  relaid : ∀ {id before data}, saved.character? id = some before → content.character id = .ok data →
    ∃ fields, restored.character? id = some ((Character.ofRecord id data).withFields fields) ∧
      Relaid data.fields before.fields (visible.contains id) fields ∧
      Savable data.fields before.fields (visible.contains id)

theorem layered_isSome (layers : List (String × List (String × Value))) :
    ((layered state layers).character? id).isSome = (state.character? id).isSome := by
  simp only [layered]
  induction layers generalizing state with
  | nil => rfl
  | cons layer layers ih =>
      rw [List.foldl_cons, ih, overlay_character?]
      split
      · exact Option.isSome_map
      · rfl

/-- The changes of a character from its baseline. -/
theorem Faithful.delta?_eq (faithful : Faithful content settings codec interpreter)
    {before : Character} {data : CharacterRecord}
    (found : interpreter.state.character? id = some before)
    (delivered : content.character id = .ok data) :
    codec.delta? id before =
      if (changedFields (authoredFields data.fields) before.fields).isEmpty then none
      else some (changedFields (authoredFields data.fields) before.fields) := by
  simp only [delta?]
  rw [faithful.captured (by rw [found]; rfl) delivered]
  rfl

/-- What is saved of a character equals itself. -/
theorem Faithful.savable (faithful : Faithful content settings codec interpreter)
    (proper : content.Proper) {snapshot : Snapshot} (shown : snapshot.visible = interpreter.visible)
    (finite : (codec.recordOf interpreter.state snapshot).nonFinite? = none) {id : String}
    {before : Character} {data : CharacterRecord}
    (found : interpreter.state.character? id = some before)
    (delivered : content.character id = .ok data) :
    Savable data.fields before.fields (interpreter.visible.contains id) := by
  obtain ⟨origin, same, plays⟩ := faithful.cast.plays found
  rw [delivered] at same
  cases same
  simp only [SaveRecord.nonFinite?] at finite
  simp only [Option.or_eq_none_iff] at finite
  obtain ⟨-, deltas, display⟩ := finite
  refine ⟨(proper.fields delivered).sorted, plays.ordered.sorted, plays.kept, ?_, ?_⟩
  · intro key value changed
    have delta := get?_deltas faithful.cast.sorted codec id
    rw [found, Option.bind_some, faithful.delta?_eq found delivered] at delta
    split at delta
    · rename_i unchanged
      rw [List.isEmpty_iff.1 unchanged] at changed
      cases changed
    · exact SaveRecord.nonFiniteDelta?_same deltas delta changed
  · intro visible key value displayed present
    cases empty : value.isNull with
    | true =>
        cases value with
        | null => rfl
        | _ => cases empty
    | false =>
        have member : VisibleCharacter.ofFields id before.fields ∈
            (codec.recordOf interpreter.state snapshot).visible := by
          apply List.mem_map.2
          refine ⟨before, List.mem_filterMap.2 ⟨id, ?_, found⟩, by rw [plays.id]⟩
          rw [shown]
          exact List.contains_iff_mem.1 visible
        have field := get?_displayFields id before.fields key
        rw [if_pos displayed, present, Option.filter_some, empty] at field
        exact SaveRecord.nonFiniteDisplay?_same display member (Dict.mem_of_get? field)

/-- The changed fields of a record bring a character to its content under what was changed. -/
theorem Faithful.layered_deltas (faithful : Faithful content settings codec interpreter)
    (proper : content.Proper) {before : Character} {data : CharacterRecord}
    (renewed : interpreter.state.Renewed content ready)
    (found : interpreter.state.character? id = some before)
    (delivered : content.character id = .ok data) :
    (layered ready (codec.deltas interpreter.state)).character? id = some
      ((Character.ofRecord id data).over
        (changedFields (authoredFields data.fields) before.fields)) := by
  obtain ⟨origin, -, plays⟩ := faithful.cast.plays found
  have sorted := plays.ordered.sorted
  have fresh := renewed.fresh (by rw [found]; rfl) delivered
  have change := get?_deltas faithful.cast.sorted codec id
  rw [found, Option.bind_some, faithful.delta?_eq found delivered] at change
  split at change
  · rename_i unchanged
    rw [List.isEmpty_iff.1 unchanged, layered_absent change, fresh]
    rfl
  · apply layered_present _ (changedFields_sorted sorted _).distinct _ fresh (by rw [change]; rfl)
    · intro layer member named
      have held := (deltas_sorted faithful.cast.sorted codec).get?_of_mem member
      rw [named, change] at held
      exact (Option.some.inj held).symm
    · exact (proper.fields delivered).sorted

/-- A record laid over fresh characters brings back the fields that were saved. -/
theorem Faithful.recast (faithful : Faithful content settings codec interpreter)
    (proper : content.Proper) {snapshot : Snapshot} (shown : snapshot.visible = interpreter.visible)
    (finite : (codec.recordOf interpreter.state snapshot).nonFinite? = none)
    (sorted : Dict.Sorted ready.characters)
    (renewed : interpreter.state.Renewed content ready) :
    Recast content interpreter.visible interpreter.state
      (overlaid (codec.recordOf interpreter.state snapshot) ready) := by
  have display : (codec.recordOf interpreter.state snapshot).visible = interpreter.visible.map
      fun id => .ofFields id (fieldsOf interpreter.state id) := by
    rw [← shown_eq faithful.named, ← shown]
    rfl
  rw [overlaid_eq, display, List.map_map]
  have layers := Dict.get?_tabulate interpreter.visible fun id =>
    (VisibleCharacter.ofFields id (fieldsOf interpreter.state id)).displayFields
  refine ⟨layered_sorted (layered_sorted sorted _) _,
    fun id => ((layered_isSome _).trans (layered_isSome _)).trans (renewed.members id), ?_⟩
  intro id before data found delivered
  have changed := faithful.layered_deltas proper renewed found delivered
  have present : fieldsOf interpreter.state id = before.fields := by
    simp only [fieldsOf]
    rw [found]
    rfl
  obtain ⟨origin, -, plays⟩ := faithful.cast.plays found
  have ordered := plays.ordered.sorted
  have authored := (proper.fields delivered).sorted
  have distinct := (changedFields_sorted ordered (authoredFields data.fields)).distinct
  have savable := faithful.savable proper shown finite found delivered
  have under := layers id
  rw [present] at under
  cases visible : interpreter.visible.contains id with
  | false =>
      rw [visible] at under
      refine ⟨Dict.union data.fields (changedFields (authoredFields data.fields) before.fields),
        (layered_absent under).trans changed, ⟨authored.union _, ?_⟩, visible ▸ savable⟩
      intro key
      rw [Dict.get?_union distinct]
      rfl
  | true =>
      rw [visible] at under
      refine ⟨Dict.union
        (Dict.union data.fields (changedFields (authoredFields data.fields) before.fields))
          (VisibleCharacter.ofFields id before.fields).displayFields, ?_,
        ⟨(authored.union _).union _, ?_⟩, visible ▸ savable⟩
      · apply layered_present _ (displayFields_distinct id before.fields) (authored.union _) changed
        · exact Option.isSome_iff_exists.2 ⟨_, under⟩
        · intro layer member named
          obtain ⟨other, -, rfl⟩ := List.mem_map.1 member
          change other = id at named
          subst named
          change (VisibleCharacter.ofFields other (fieldsOf interpreter.state other)).displayFields = _
          rw [present]
      · intro key
        rw [Dict.get?_union (displayFields_distinct id before.fields), Dict.get?_union distinct,
          get?_displayFields, Bool.true_and, Option.or_assoc]

end SaveCodec

end VisualNovel
