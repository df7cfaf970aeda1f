import VisualNovel.Proofs.Saves.Fields

/-!
# Laying changed fields over authored ones

A character is restored from the fields of its content, over which the changed fields are laid, and
over these the display fields when it is shown. Under every name but those of derived data this gives
back the saved form of the fields that were saved.
-/

namespace VisualNovel.SaveCodec

/-! ## The saved form of fields -/

/-- The saved form of the value of a field. -/
def collapsed (key : String) (value : Value) : Value :=
  if key = equipmentSlotsKey then sanitizedSlots value else value

/-- All fields with slots in their saved form. -/
def collapsedFields (fields : Dict Value) : Dict Value :=
  fields.map fun field => (field.1, collapsed field.1 field.2)

variable {authored fields relaid : Dict Value}

theorem collapsed_idem (key : String) (value : Value) :
    collapsed key (collapsed key value) = collapsed key value := by
  simp only [collapsed]
  split
  · exact sanitizedSlots_idem value
  · rfl

theorem get?_collapsedFields (fields : Dict Value) (key : String) :
    Dict.get? (collapsedFields fields) key = (Dict.get? fields key).map (collapsed key) :=
  Dict.get?_map collapsed fields key

theorem collapsedFields_sorted (sorted : Dict.Sorted fields) :
    Dict.Sorted (collapsedFields fields) :=
  sorted.map fun field => collapsed field.1 field.2

theorem authoredFields_sorted (sorted : Dict.Sorted fields) :
    Dict.Sorted (authoredFields fields) :=
  collapsedFields_sorted (sorted.filter fun field => !derivedKeys.contains field.1)

/-- The saved fields are those that are not derived, in their saved form. -/
theorem get?_authoredFields (sorted : Dict.Sorted fields) (key : String) :
    Dict.get? (authoredFields fields) key =
      if derivedKeys.contains key then none else (Dict.get? fields key).map (collapsed key) := by
  change Dict.get? (collapsedFields (fields.filter _)) key = _
  rw [get?_collapsedFields, Dict.get?_filter sorted.distinct]
  cases derived : derivedKeys.contains key with
  | true => cases Dict.get? fields key <;> simp only [Option.filter, derived] <;> rfl
  | false => cases Dict.get? fields key <;> simp only [Option.filter, derived] <;> rfl

/-- The changed fields are the saved ones that do not equal their baseline. -/
theorem get?_changedFields (sorted : Dict.Sorted fields) (baseline : Dict Value) (key : String) :
    Dict.get? (changedFields baseline fields) key =
      (Dict.get? (authoredFields fields) key).filter fun value =>
        !(Dict.get? baseline key).any fun kept => kept == value :=
  Dict.get?_filter (authoredFields_sorted sorted).distinct _ key

theorem changedFields_sorted (sorted : Dict.Sorted fields) (baseline : Dict Value) :
    Dict.Sorted (changedFields baseline fields) :=
  (authoredFields_sorted sorted).filter _

/-! ## Display fields -/

/-- The names of display fields. -/
def displayKeys : List String := ["position", "orientation", "back", "customClass", "scale"]

theorem displayFields_eq (id : String) (fields : Dict Value) :
    (VisibleCharacter.ofFields id fields).displayFields =
      (displayKeys.map fun key => (key, (Dict.get? fields key).getD .null)).filter fun field =>
        !field.2.isNull := rfl

theorem displayFields_distinct (id : String) (fields : Dict Value) :
    Dict.Distinct (VisibleCharacter.ofFields id fields).displayFields := by
  rw [displayFields_eq]
  apply List.Pairwise.filter
  simp [displayKeys]

/-- The display fields are those of the character that have a display name and are not absent. -/
theorem get?_displayFields (id : String) (fields : Dict Value) (key : String) :
    Dict.get? (VisibleCharacter.ofFields id fields).displayFields key =
      if displayKeys.contains key then (Dict.get? fields key).filter fun value => !value.isNull
      else none := by
  have distinct : Dict.Distinct (displayKeys.map fun key =>
      (key, (Dict.get? fields key).getD .null)) := by
    simp [Dict.Distinct, displayKeys]
  rw [displayFields_eq, Dict.get?_filter distinct,
    Dict.get?_tabulate displayKeys fun key => (Dict.get? fields key).getD .null]
  split
  · cases Dict.get? fields key <;> rfl
  · rfl

/-! ## Laying fields over each other -/

/-- The fields of a restored character: authored ones under the changed ones, and these under the
display fields when the character is shown. -/
structure Relaid (authored fields : Dict Value) (displayed : Bool) (relaid : Dict Value) : Prop where
  sorted : Dict.Sorted relaid
  get? : ∀ key, Dict.get? relaid key =
    ((if displayed && displayKeys.contains key then
        (Dict.get? fields key).filter fun value => !value.isNull
      else none).or (Dict.get? (changedFields (authoredFields authored) fields) key)).or
      (Dict.get? authored key)

/-- A character in play has every authored field, and what is saved of it equals itself. -/
structure Savable (authored fields : Dict Value) (displayed : Bool) : Prop where
  content : Dict.Sorted authored
  sorted : Dict.Sorted fields
  kept : ∀ key, (Dict.get? authored key).isSome = true → (Dict.get? fields key).isSome = true
  changed : ∀ {key value},
    Dict.get? (changedFields (authoredFields authored) fields) key = some value →
    (value == value) = true
  shown : displayed = true → ∀ {key value}, displayKeys.contains key = true →
    Dict.get? fields key = some value → (value == value) = true

variable {displayed : Bool}

theorem displayKeys_plain {key : String} (display : displayKeys.contains key = true) :
    derivedKeys.contains key = false ∧ ∀ value, collapsed key value = value := by
  simp only [displayKeys, List.contains_cons, Bool.or_eq_true, beq_iff_eq] at display
  rcases display with rfl | rfl | rfl | rfl | rfl | absurd
  · exact ⟨by decide, fun value => rfl⟩
  · exact ⟨by decide, fun value => rfl⟩
  · exact ⟨by decide, fun value => rfl⟩
  · exact ⟨by decide, fun value => rfl⟩
  · exact ⟨by decide, fun value => rfl⟩
  · cases absurd

/-- Derived names keep what the content has under them. -/
theorem Relaid.get?_derived (relays : Relaid authored fields displayed relaid)
    (savable : Savable authored fields displayed) {key : String}
    (derived : derivedKeys.contains key = true) :
    Dict.get? relaid key = Dict.get? authored key := by
  have plain : displayKeys.contains key = false := by
    cases display : displayKeys.contains key with
    | false => rfl
    | true =>
        rw [(displayKeys_plain display).1] at derived
        cases derived
  rw [relays.get?, plain, get?_changedFields savable.sorted, get?_authoredFields savable.sorted,
    derived]
  simp

/-- A field of a restored character comes from the screen, from the changed fields, or from the
content, where it equals what was saved. -/
theorem Relaid.get?_cases (relays : Relaid authored fields displayed relaid)
    (savable : Savable authored fields displayed) {key : String}
    (plain : derivedKeys.contains key = false) :
    (∃ value, displayed = true ∧ displayKeys.contains key = true ∧
      Dict.get? fields key = some value ∧ Dict.get? relaid key = some value) ∨
    (∃ value, Dict.get? fields key = some value ∧
      Dict.get? (changedFields (authoredFields authored) fields) key =
        some (collapsed key value) ∧ Dict.get? relaid key = some (collapsed key value)) ∨
    (∃ value kept, Dict.get? fields key = some value ∧ Dict.get? authored key = some kept ∧
      ((displayed && displayKeys.contains key) = true → value.isNull = true) ∧
      (collapsed key kept == collapsed key value) = true ∧ Dict.get? relaid key = some kept) ∨
    (Dict.get? fields key = none ∧ Dict.get? relaid key = none) := by
  have relaidBy := relays.get? key
  have change := get?_changedFields savable.sorted (authoredFields authored) key
  rw [get?_authoredFields savable.sorted, get?_authoredFields savable.content, plain] at change
  simp only [Bool.false_eq_true, ↓reduceIte] at change
  cases found : Dict.get? fields key with
  | none =>
      have missing : Dict.get? authored key = none := by
        cases kept : Dict.get? authored key with
        | none => rfl
        | some value =>
            have present := savable.kept key (by rw [kept]; rfl)
            rw [found] at present
            cases present
      right; right; right
      rw [change, found, missing] at relaidBy
      refine ⟨rfl, relaidBy.trans ?_⟩
      split <;> rfl
  | some value =>
      rw [found] at relaidBy change
      by_cases drawn : (displayed && displayKeys.contains key) = true ∧ value.isNull = false
      · left
        obtain ⟨display, present⟩ := drawn
        rw [display] at relaidBy
        simp only [Bool.and_eq_true] at display
        refine ⟨value, display.1, display.2, rfl, relaidBy.trans ?_⟩
        simp [Option.filter, present]
      · have absent : (displayed && displayKeys.contains key) = true → value.isNull = true := by
          intro display
          cases empty : value.isNull with
          | true => rfl
          | false => exact absurd ⟨display, empty⟩ drawn
        have undrawn : (if (displayed && displayKeys.contains key) = true then
            (some value).filter fun value => !value.isNull else none) = none := by
          split
          · rename_i display
            simp [Option.filter, absent display]
          · rfl
        rw [undrawn, Option.none_or] at relaidBy
        right
        cases kept : Dict.get? authored key with
        | none =>
            left
            rw [kept] at change
            simp only [Option.map_some, Option.map_none, Option.any_none, Option.filter,
              Bool.not_false, ↓reduceIte] at change
            rw [change] at relaidBy
            exact ⟨value, rfl, change, relaidBy⟩
        | some original =>
            rw [kept] at change relaidBy
            simp only [Option.map_some, Option.any_some, Option.filter] at change
            cases equal : collapsed key original == collapsed key value with
            | true =>
                right; left
                rw [if_neg (by simp [equal])] at change
                rw [change] at relaidBy
                exact ⟨value, original, rfl, rfl, absent, equal, relaidBy⟩
            | false =>
                left
                rw [if_pos (by simp [equal])] at change
                rw [change] at relaidBy
                exact ⟨value, rfl, change, relaidBy⟩

/-- Under every other name the restored character has what was saved of the field. -/
theorem Relaid.agree (relays : Relaid authored fields displayed relaid)
    (savable : Savable authored fields displayed) {key : String}
    (plain : derivedKeys.contains key = false) :
    Value.agree ((Dict.get? relaid key).map (collapsed key))
      ((Dict.get? fields key).map (collapsed key)) = true := by
  rcases relays.get?_cases savable plain with ⟨value, shown, display, found, same⟩ |
    ⟨value, found, changed, same⟩ | ⟨value, kept, found, content, -, equal, same⟩ | ⟨found, same⟩
  · rw [found, same]
    simp only [Option.map_some, (displayKeys_plain display).2]
    exact savable.shown shown display found
  · rw [found, same]
    simp only [Option.map_some, collapsed_idem]
    exact savable.changed changed
  · rw [found, same]
    exact equal
  · rw [found, same]
    rfl

/-- What is saved of a restored character equals what was saved before. -/
theorem Relaid.authoredFields_equal (relays : Relaid authored fields displayed relaid)
    (savable : Savable authored fields displayed) :
    (Value.map (authoredFields relaid) == Value.map (authoredFields fields)) = true := by
  rw [Value.same_map_iff (authoredFields_sorted relays.sorted)
    (authoredFields_sorted savable.sorted)]
  intro key
  rw [get?_authoredFields relays.sorted, get?_authoredFields savable.sorted]
  cases derived : derivedKeys.contains key with
  | true => rfl
  | false => exact relays.agree savable derived

theorem map_collapsed_derived {key : String} (derived : derivedKeys.contains key = true)
    (found : Option Value) : found.map (collapsed key) = found := by
  have other : key ≠ equipmentSlotsKey := by
    rintro rfl
    exact absurd derived (by decide)
  unfold collapsed
  simp only [other, ↓reduceIte, Option.map_id']

/-- All fields come back exactly when those under derived names are the ones of the content. -/
theorem Relaid.collapsedFields_equal_iff (relays : Relaid authored fields displayed relaid)
    (savable : Savable authored fields displayed) :
    (Value.map (collapsedFields relaid) == Value.map (collapsedFields fields)) = true ↔
      ∀ key ∈ derivedKeys,
        Value.agree (Dict.get? authored key) (Dict.get? fields key) = true := by
  rw [Value.same_map_iff (collapsedFields_sorted relays.sorted)
    (collapsedFields_sorted savable.sorted)]
  simp only [get?_collapsedFields]
  constructor
  · intro equal key member
    have derived : derivedKeys.contains key = true := List.contains_iff_mem.2 member
    have same := equal key
    rw [map_collapsed_derived derived, map_collapsed_derived derived,
      relays.get?_derived savable derived] at same
    exact same
  · intro equal key
    cases derived : derivedKeys.contains key with
    | true =>
        rw [map_collapsed_derived derived, map_collapsed_derived derived,
          relays.get?_derived savable derived]
        exact equal key (List.contains_iff_mem.1 derived)
    | false => exact relays.agree savable derived

/-- The index of equipment comes back. -/
theorem Relaid.equipmentIndex_eq (relays : Relaid authored fields displayed relaid)
    (savable : Savable authored fields displayed) (equipment : List Value) :
    Character.equipmentIndex relaid equipment = Character.equipmentIndex fields equipment :=
  equipmentIndex_congr (relays.agree savable (by decide)) equipment

/-- The changed fields of the restored character are those that it was restored from. -/
theorem Relaid.changedFields_eq (relays : Relaid authored fields displayed relaid)
    (savable : Savable authored fields displayed) :
    changedFields (authoredFields authored) relaid =
      changedFields (authoredFields authored) fields := by
  apply (changedFields_sorted relays.sorted _).ext (changedFields_sorted savable.sorted _)
  intro key
  rw [get?_changedFields relays.sorted, get?_changedFields savable.sorted,
    get?_authoredFields relays.sorted, get?_authoredFields savable.sorted,
    get?_authoredFields savable.content]
  cases derived : derivedKeys.contains key with
  | true => rfl
  | false =>
      rcases relays.get?_cases savable derived with ⟨value, -, -, found, same⟩ |
        ⟨value, found, -, same⟩ | ⟨value, kept, found, content, -, equal, same⟩ | ⟨found, same⟩
      · rw [found, same]
      · rw [found, same]
        simp only [Option.map_some, collapsed_idem]
      · have reflexive : (collapsed key kept == collapsed key kept) = true := Value.same_self equal
        rw [found, same, content]
        simp [Option.filter, equal, reflexive]
      · rw [found, same]

/-- The display fields of a character that is shown are those that it was saved with. -/
theorem Relaid.ofFields_eq (relays : Relaid authored fields true relaid)
    (savable : Savable authored fields true) (id : String) :
    VisibleCharacter.ofFields id relaid = VisibleCharacter.ofFields id fields := by
  have same : ∀ key, displayKeys.contains key = true →
      (Dict.get? relaid key).getD .null = (Dict.get? fields key).getD .null := by
    intro key display
    obtain ⟨plain, raw⟩ := displayKeys_plain display
    rcases relays.get?_cases savable plain with ⟨value, -, -, found, same⟩ |
      ⟨value, found, -, same⟩ | ⟨value, kept, found, -, absent, equal, same⟩ | ⟨found, same⟩
    · rw [found, same]
    · rw [found, same, raw]
    · rw [found, same]
      have empty := absent display
      rw [raw, raw] at equal
      cases value with
      | null =>
          cases kept with
          | null => rfl
          | _ => cases equal
      | _ => cases empty
    · rw [found, same]
  simp only [VisibleCharacter.ofFields]
  simp only [same "position" (by decide), same "orientation" (by decide), same "back" (by decide),
    same "customClass" (by decide), same "scale" (by decide)]

end VisualNovel.SaveCodec
