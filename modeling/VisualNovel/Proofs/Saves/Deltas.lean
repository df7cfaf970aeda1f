import VisualNovel.Proofs.Saves.Overlay
import VisualNovel.Proofs.Saves.Playing
import VisualNovel.Proofs.State.Order

/-!
# What is saved of a character

The changed fields of a character are those that are not derived and whose saved form differs from
the baseline, and no others. Laid over the baseline they give back the saved form of all fields,
unless the character has lost one that the baseline knows. The saved form itself says the same of
equipment as the fields do, and is its own saved form.
-/

namespace VisualNovel.SaveCodec

variable {codec : SaveCodec} {state : StateTree} {id key : String} {character : Character}
variable {baseline original fields : Dict Value}

/-! ## Baselines -/

/-- A codec whose baselines were captured from states with their maps in order. -/
inductive Captured : SaveCodec → Prop where
  | empty : Captured .empty
  | capture {codec : SaveCodec} {state : StateTree} :
      Captured codec → state.InOrder → Captured (codec.capture state)

/-- A baseline is the saved form of the fields it was captured from. -/
theorem Captured.saved (captured : codec.Captured)
    (known : codec.baseline? id = some baseline) :
    ∃ original, Dict.Sorted original ∧ baseline = authoredFields original := by
  induction captured with
  | empty => cases known
  | capture captured inOrder ih =>
      rw [baseline?_capture, Option.or_eq_some_iff] at known
      rcases known with earlier | ⟨-, fresh⟩
      · exact ih earlier
      · obtain ⟨character, found, rfl⟩ := Option.map_eq_some_iff.1 fresh
        exact ⟨character.fields, (inOrder.characters found).fields.sorted, rfl⟩

/-! ## Changed fields -/

/-- The changed fields of a character; none when it does not appear. -/
def deltaOf (codec : SaveCodec) (state : StateTree) (id : String) : Dict Value :=
  (Dict.get? (codec.deltas state) id).getD []

theorem deltaOf_eq (sorted : Dict.Sorted state.characters)
    (found : state.character? id = some character) (known : codec.baseline? id = some baseline) :
    codec.deltaOf state id = changedFields baseline character.fields := by
  simp only [deltaOf]
  rw [get?_deltas sorted, found, Option.bind_some, delta?, known, Option.bind_some]
  split
  · rename_i unchanged
    exact (List.isEmpty_iff.1 unchanged).symm
  · rfl

/-- A character that appears has changed fields. -/
theorem deltas_nonempty (sorted : Dict.Sorted state.characters) {delta : Dict Value}
    (appears : Dict.get? (codec.deltas state) id = some delta) : delta ≠ [] := by
  rw [get?_deltas sorted] at appears
  obtain ⟨character, -, changed⟩ := Option.bind_eq_some_iff.1 appears
  obtain ⟨baseline, -, changed⟩ := Option.bind_eq_some_iff.1 changed
  split at changed
  · cases changed
  · rename_i differs
    cases changed
    rintro empty
    rw [empty] at differs
    exact differs rfl

/-- A field is changed when it is not derived and its saved form does not equal the baseline. -/
theorem get?_changedFields_iff (sorted : Dict.Sorted fields) {changed : Value} :
    Dict.get? (changedFields baseline fields) key = some changed ↔
      derivedKeys.contains key = false ∧ ∃ value, Dict.get? fields key = some value ∧
        changed = collapsed key value ∧
        ∀ kept, Dict.get? baseline key = some kept → (kept == changed) = false := by
  rw [get?_changedFields sorted, get?_authoredFields sorted, Option.filter_eq_some_iff]
  constructor
  · rintro ⟨saved, differs⟩
    cases derived : derivedKeys.contains key with
    | true =>
        rw [derived] at saved
        cases saved
    | false =>
        rw [derived] at saved
        obtain ⟨value, found, rfl⟩ := Option.map_eq_some_iff.1 saved
        refine ⟨rfl, value, found, rfl, ?_⟩
        intro kept known
        rw [known] at differs
        simpa using differs
  · rintro ⟨plain, value, found, rfl, differs⟩
    rw [plain, found]
    refine ⟨rfl, ?_⟩
    cases known : Dict.get? baseline key with
    | none => rfl
    | some kept => simp [differs kept known]

/-! ## Laying changed fields over the baseline -/

/-- Whether no field of the baseline was lost. -/
def Retains (baseline fields : Dict Value) : Prop :=
  ∀ key, (Dict.get? baseline key).isSome = true → (Dict.get? fields key).isSome = true

/-- A name without a saved field has no baseline either. -/
theorem Retains.absent (retains : Retains (authoredFields original) fields)
    (first : Dict.Sorted original) (sorted : Dict.Sorted fields)
    (missing : Dict.get? (authoredFields fields) key = none) :
    Dict.get? (authoredFields original) key = none := by
  have present := retains key
  rw [get?_authoredFields sorted] at missing
  rw [get?_authoredFields first] at present ⊢
  cases derived : derivedKeys.contains key with
  | true => rfl
  | false =>
      rw [derived] at missing present
      simp only [Bool.false_eq_true, ↓reduceIte, Option.map_eq_none_iff] at missing
      simp only [Bool.false_eq_true, ↓reduceIte] at present ⊢
      rw [missing] at present
      cases lost : (Dict.get? original key).map (collapsed key) with
      | none => rfl
      | some value =>
          rw [lost] at present
          cases present rfl

/-- Under every name the changed fields laid over the baseline have what is saved, or keep a value of
the baseline that equals it. -/
theorem Retains.laid (retains : Retains (authoredFields original) fields)
    (first : Dict.Sorted original) (sorted : Dict.Sorted fields) (key : String) :
    Dict.get? (Dict.union (authoredFields original)
        (changedFields (authoredFields original) fields)) key =
      Dict.get? (authoredFields fields) key ∨
    ∃ kept value, Dict.get? (authoredFields original) key = some kept ∧
      Dict.get? (authoredFields fields) key = some value ∧ (kept == value) = true ∧
      Dict.get? (Dict.union (authoredFields original)
        (changedFields (authoredFields original) fields)) key = some kept := by
  rw [Dict.get?_union (changedFields_sorted sorted _).distinct, get?_changedFields sorted]
  cases saved : Dict.get? (authoredFields fields) key with
  | none =>
      rw [retains.absent first sorted saved]
      exact .inl rfl
  | some value =>
      cases known : Dict.get? (authoredFields original) key with
      | none => exact .inl rfl
      | some kept =>
          -- What equals the baseline is not among the changes, and the value of the baseline stays.
          cases equal : kept == value with
          | true => exact .inr ⟨kept, value, rfl, rfl, equal, by simp [Option.filter, equal]⟩
          | false => exact .inl (by simp [Option.filter, equal])

/-- Where equal values are the same, the fields that were saved come back as they are. -/
theorem Retains.laid_eq (retains : Retains (authoredFields original) fields)
    (first : Dict.Sorted original) (sorted : Dict.Sorted fields)
    (alike : ∀ key kept value, Dict.get? (authoredFields original) key = some kept →
      Dict.get? (authoredFields fields) key = some value → (kept == value) = true →
      kept = value) :
    Dict.union (authoredFields original) (changedFields (authoredFields original) fields) =
      authoredFields fields := by
  apply ((authoredFields_sorted first).union _).ext (authoredFields_sorted sorted)
  intro key
  rcases retains.laid first sorted key with same | ⟨kept, value, known, saved, equal, stays⟩
  · exact same
  · rw [stays, saved, alike key kept value known saved equal]

/-! ## The saved form -/

theorem authoredFields_idem (sorted : Dict.Sorted fields) :
    authoredFields (authoredFields fields) = authoredFields fields := by
  have saved := authoredFields_sorted sorted
  apply (authoredFields_sorted saved).ext saved
  intro key
  rw [get?_authoredFields saved, get?_authoredFields sorted]
  split
  · rfl
  · rw [Option.map_map]
    exact Option.map_congr fun value _ => collapsed_idem key value

theorem get?_savedSlots (sorted : Dict.Sorted fields) :
    Dict.get? (authoredFields fields) equipmentSlotsKey =
      (Dict.get? fields equipmentSlotsKey).map sanitizedSlots := by
  rw [get?_authoredFields sorted]
  rfl

/-- The saved form has the same items in the same slots, whatever the catalogue. -/
theorem equipmentIndex_saved (sorted : Dict.Sorted fields) (equipment : List Value) :
    Character.equipmentIndex (authoredFields fields) equipment =
      Character.equipmentIndex fields equipment := by
  change Character.indexOf equipment (Dict.get? (authoredFields fields) equipmentSlotsKey) =
    Character.indexOf equipment (Dict.get? fields equipmentSlotsKey)
  rw [get?_savedSlots sorted, indexOf_sanitized]

theorem slots_saved (sorted : Dict.Sorted fields) :
    Character.slots (authoredFields fields) =
      Dict.mapValues sanitizedReference (Character.slots fields) := by
  simp only [Character.slots]
  rw [get?_savedSlots sorted]
  cases Dict.get? fields equipmentSlotsKey with
  | none => rfl
  | some value => cases value <;> rfl

theorem hasItem_saved (sorted : Dict.Sorted character.fields) (item : String) :
    Character.hasItem { character with fields := authoredFields character.fields } item =
      character.hasItem item := by
  simp only [Character.hasItem]
  rw [slots_saved sorted, Dict.mapValues, List.any_map]
  congr 1
  funext entry
  simp only [Function.comp_apply]
  rw [slotItem?_sanitizedReference]

/-! ## The changed fields of a character -/

/-- A field is among the changed ones of a character exactly when it is not derived and its saved
form differs from the baseline, or the baseline lacks it. When the character has lost no field of the
baseline, the changed fields laid over it have under every name what is saved, but for values of the
baseline that equal it, and are just the saved form where equal values are the same. A character
without changed fields does not appear. The saved form is its own saved form, and leaves the index of
equipment and the items that are held as they are. -/
theorem deltas_exact (codec : SaveCodec) (state : StateTree) (captured : codec.Captured)
    (inOrder : state.InOrder) :
    (∀ id character baseline, state.character? id = some character →
      codec.baseline? id = some baseline →
      (∀ key changed, Dict.get? (codec.deltaOf state id) key = some changed ↔
        derivedKeys.contains key = false ∧
          ∃ value, Dict.get? character.fields key = some value ∧ changed = collapsed key value ∧
            ∀ kept, Dict.get? baseline key = some kept → (kept == changed) = false) ∧
      (Retains baseline character.fields →
        (∀ key, Dict.get? (Dict.union baseline (codec.deltaOf state id)) key =
            Dict.get? (authoredFields character.fields) key ∨
          ∃ kept value, Dict.get? baseline key = some kept ∧
            Dict.get? (authoredFields character.fields) key = some value ∧
            (kept == value) = true ∧
            Dict.get? (Dict.union baseline (codec.deltaOf state id)) key = some kept) ∧
        ((∀ key kept value, Dict.get? baseline key = some kept →
            Dict.get? (authoredFields character.fields) key = some value →
            (kept == value) = true → kept = value) →
          Dict.union baseline (codec.deltaOf state id) = authoredFields character.fields))) ∧
    (∀ id delta, Dict.get? (codec.deltas state) id = some delta → delta ≠ []) ∧
    ∀ character : Character, Dict.Sorted character.fields →
      authoredFields (authoredFields character.fields) = authoredFields character.fields ∧
      (∀ equipment, Character.equipmentIndex (authoredFields character.fields) equipment =
        Character.equipmentIndex character.fields equipment) ∧
      ∀ item, Character.hasItem { character with fields := authoredFields character.fields } item =
        character.hasItem item := by
  refine ⟨?_, fun id delta => deltas_nonempty inOrder.sorted, fun character sorted =>
    ⟨authoredFields_idem sorted, equipmentIndex_saved sorted, hasItem_saved sorted⟩⟩
  intro id character baseline found known
  have sorted := (inOrder.characters found).fields.sorted
  obtain ⟨original, first, rfl⟩ := captured.saved known
  rw [deltaOf_eq inOrder.sorted found known]
  exact ⟨fun key changed => get?_changedFields_iff sorted, fun retains =>
    ⟨retains.laid first sorted, retains.laid_eq first sorted⟩⟩

/-- A character who holds a sword, as the content has it. -/
def swordFields : Dict Value :=
  [("equipment_slots", .map [("hand", .map [("item", .map [("id", .text "sword")])])]),
    ("gold", .int 10), ("name", .text "Mia")]

/-- The same character later on, with the slot in another form. -/
def laterFields : Dict Value :=
  [("equipment_slots", .map [("hand", .text "sword")]), ("gold", .int 25), ("name", .text "Mia"),
    ("note", .text "north")]

/-- A state with a character of the given fields. -/
def loneState (fields : Dict Value) : StateTree :=
  StateTree.empty.insertCharacter (.ofRecord "mc" ⟨fields, .null, []⟩)

theorem loneState_inOrder {fields : Dict Value} (ordered : (Value.map fields).Ordered) :
    (loneState fields).InOrder := by
  have empty : StateTree.empty.InOrder :=
    ⟨List.Pairwise.nil, nofun, Value.emptyMap_ordered⟩
  have data : CharacterRecord.InOrder ⟨fields, .null, []⟩ := ⟨ordered, .null, nofun⟩
  exact empty.touch.replace "mc" (Character.ofRecord_inOrder data "mc")

/-- A codec that knows the character as the content has it. -/
def swordCodec : SaveCodec := SaveCodec.empty.capture (loneState swordFields)

/-- The gold and the note have changed, and the sword has not. Laid over the baseline they give the
saved form of the fields, in which the sword is held. -/
theorem deltas_exact_later :
    Dict.get? (swordCodec.deltaOf (loneState laterFields) "mc") "gold" = some (.int 25) ∧
      Dict.keys (swordCodec.deltaOf (loneState laterFields) "mc") = ["gold", "note"] ∧
      Dict.union (authoredFields swordFields)
        (swordCodec.deltaOf (loneState laterFields) "mc") = authoredFields laterFields ∧
      Character.hasItem (.ofRecord "mc" ⟨authoredFields swordFields, .null, []⟩) "sword" = true := by
  have slots : (Value.map [("hand", .map [("item", .map [("id", .text "sword")])])]).Ordered :=
    Value.emptyMap_ordered.insert "hand" (Value.emptyMap_ordered.insert "item"
      (Value.emptyMap_ordered.insert "id" (.text "sword")))
  have first : (Value.map swordFields).Ordered :=
    ((Value.emptyMap_ordered.insert "name" (.text "Mia")).insert "gold" (.int 10)).insert
      "equipment_slots" slots
  have hand : (Value.map [("hand", .text "sword")]).Ordered :=
    Value.emptyMap_ordered.insert "hand" (.text "sword")
  have later : (Value.map laterFields).Ordered :=
    (((Value.emptyMap_ordered.insert "note" (.text "north")).insert "name" (.text "Mia")).insert
      "gold" (.int 25)).insert "equipment_slots" hand
  obtain ⟨known, -, saved⟩ := deltas_exact swordCodec (loneState laterFields)
    (.capture .empty (loneState_inOrder first)) (loneState_inOrder later)
  obtain ⟨fields, laid⟩ := known "mc" (.ofRecord "mc" ⟨laterFields, .null, []⟩)
    (authoredFields swordFields) rfl rfl
  have names : ∀ key, (Dict.get? (authoredFields swordFields) key).isSome = true →
      key = "equipment_slots" ∨ key = "gold" ∨ key = "name" := by
    intro key present
    have listed : key ∈ ["equipment_slots", "gold", "name"] := Dict.mem_keys.2 present
    simpa using listed
  have retains : Retains (authoredFields swordFields) laterFields := by
    intro key present
    rcases names key present with rfl | rfl | rfl <;> rfl
  refine ⟨(fields "gold" (.int 25)).2 ⟨rfl, .int 25, rfl, rfl, ?_⟩, rfl, (laid retains).2 ?_, ?_⟩
  · rintro kept ⟨⟩
    rfl
  · intro key kept value before after equal
    rcases names key (by rw [before]; rfl) with rfl | rfl | rfl
    · cases before
      cases after
      rfl
    · cases before
      cases after
      cases equal
    · cases before
      cases after
      rfl
  · exact ((saved (.ofRecord "mc" ⟨swordFields, .null, []⟩) first.sorted).2.2 "sword").trans rfl

end VisualNovel.SaveCodec
