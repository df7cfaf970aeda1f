import VisualNovel.Proofs.Equipment
import VisualNovel.Saves.Codec

/-!
# Fields as they are saved

The saved form of a slot reference is to the same item, so the index of equipment does not see it,
and taking the saved form twice is taking it once. What differs from the baseline, laid over the
fields that the baseline was taken from, has the saved form of the fields that were compared.
-/

namespace VisualNovel

namespace SaveCodec

/-! ## References -/

/-- The saved form of a reference is to the same item. -/
theorem slotItem?_sanitizedReference (reference : Value) :
    (sanitizedReference reference).slotItem? = reference.slotItem? := by
  cases reference with
  | map entries =>
      simp only [sanitizedReference]
      cases refers : (Value.map entries).slotItem? with
      | none => exact refers
      | some item => exact Value.slotItem?_text refers
  | _ => rfl

theorem sanitizedReference_idem (reference : Value) :
    sanitizedReference (sanitizedReference reference) = sanitizedReference reference := by
  cases reference with
  | map entries =>
      simp only [sanitizedReference]
      cases refers : (Value.map entries).slotItem? with
      | none =>
          simp only [Option.map_none, Option.getD_none]
          rw [refers]
          rfl
      | some item => rfl
  | _ => rfl

theorem sanitizedSlots_idem (slots : Value) :
    sanitizedSlots (sanitizedSlots slots) = sanitizedSlots slots := by
  cases slots with
  | map entries =>
      simp only [sanitizedSlots, Dict.mapValues, List.map_map]
      congr 1
      apply List.map_congr_left
      intro entry member
      simp only [Function.comp_apply, sanitizedReference_idem]
  | _ => rfl

/-! ## The index of equipment -/

theorem slotIndex_sanitized (equipment : List Value) (slots : Dict Value) :
    Character.slotIndex equipment (Dict.mapValues sanitizedReference slots) =
      Character.slotIndex equipment slots := by
  simp only [Character.slotIndex, Dict.mapValues]
  rw [List.filterMap_map]
  congr 1
  funext entry
  simp only [Function.comp_apply]
  rw [Character.equipped?_congr (slotItem?_sanitizedReference entry.2)]

theorem indexOf_sanitized (equipment : List Value) (slots : Option Value) :
    Character.indexOf equipment (slots.map sanitizedSlots) =
      Character.indexOf equipment slots := by
  cases slots with
  | none => rfl
  | some slots =>
      cases slots with
      | map entries => exact slotIndex_sanitized equipment entries
      | _ => rfl

/-- Characters whose slots have an equal saved form have the same index. -/
theorem equipmentIndex_congr {fields others : Dict Value}
    (equal : Value.agree ((Dict.get? fields equipmentSlotsKey).map sanitizedSlots)
      ((Dict.get? others equipmentSlotsKey).map sanitizedSlots) = true) (equipment : List Value) :
    Character.equipmentIndex fields equipment = Character.equipmentIndex others equipment := by
  change Character.indexOf equipment (Dict.get? fields equipmentSlotsKey) =
    Character.indexOf equipment (Dict.get? others equipmentSlotsKey)
  rw [← indexOf_sanitized, ← indexOf_sanitized equipment (Dict.get? others equipmentSlotsKey)]
  exact Character.indexOf_congr equal equipment

end SaveCodec

end VisualNovel
