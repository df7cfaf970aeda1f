import VisualNovel.Proofs.Json.Nesting
import VisualNovel.Proofs.State.Ordered

/-!
# Values as documents

A value whose maps are in order is read back from its document. In the form that the text shows,
numbers that are not finite are absent, and nothing else is lost: `plain_eq_self_iff` says that the
search for such a number finds none exactly when the whole value is read back.
-/

namespace VisualNovel.Value

mutual

/-- The value that is left in a text: a number that is not finite is absent. -/
def plain : Value → Value
  | .null => .null
  | .bool value => .bool value
  | .int value => .int value
  | .float value => if value.isFinite then .float value else .null
  | .text value => .text value
  | .list items => .list (plainItems items)
  | .map entries => .map (plainEntries entries)

/-- The items that are left in a text. -/
def plainItems : List Value → List Value
  | [] => []
  | item :: items => plain item :: plainItems items

/-- The entries that are left in a text. -/
def plainEntries : List (String × Value) → List (String × Value)
  | [] => []
  | (key, value) :: entries => (key, plain value) :: plainEntries entries

end

mutual

/-- The text of a document shows the document of what is left of the value. -/
theorem toJson_plain : (value : Value) → value.plain.toJson = value.toJson.written
  | .null | .bool _ | .int _ | .text _ => rfl
  | .float value => by
      rw [plain, toJson, Json.written]
      split <;> rfl
  | .list items => by rw [plain, toJson, toJson, Json.written, itemsToJson_plain items]
  | .map entries => by rw [plain, toJson, toJson, Json.written, entriesToJson_plain entries]

theorem itemsToJson_plain : (items : List Value) →
    itemsToJson (plainItems items) = Json.writtenItems (itemsToJson items)
  | [] => rfl
  | item :: items => by
      rw [plainItems, itemsToJson, itemsToJson, Json.writtenItems, toJson_plain item,
        itemsToJson_plain items]

theorem entriesToJson_plain : (entries : List (String × Value)) →
    entriesToJson (plainEntries entries) = Json.writtenMembers (entriesToJson entries)
  | [] => rfl
  | (key, value) :: entries => by
      rw [plainEntries, entriesToJson, entriesToJson, Json.writtenMembers, toJson_plain value,
        entriesToJson_plain entries]

end

/-! ## Order -/

theorem plainEntries_eq_mapValues (entries : Dict Value) :
    plainEntries entries = Dict.mapValues plain entries := by
  induction entries with
  | nil => rfl
  | cons entry entries ih =>
      obtain ⟨key, value⟩ := entry
      rw [plainEntries, ih]
      rfl

mutual

theorem plain_ordered : {value : Value} → value.Ordered → value.plain.Ordered
  | .null, _ => .null
  | .bool value, _ => .bool value
  | .int value, _ => .int value
  | .float value, _ => by
      rw [plain]
      split
      · exact .float value
      · exact .null
  | .text value, _ => .text value
  | .list items, ordered => by
      cases ordered with
      | list each => exact .list (plainItems_ordered each)
  | .map entries, ordered => by
      cases ordered with
      | map sorted each =>
          refine .map ?_ (plainEntries_ordered each)
          rw [plainEntries_eq_mapValues]
          exact List.pairwise_map.2 sorted

theorem plainItems_ordered : {items : List Value} → (∀ item ∈ items, item.Ordered) →
    ∀ item ∈ plainItems items, item.Ordered
  | [], _ => by simp [plainItems]
  | item :: items, each => by
      obtain ⟨first, others⟩ := List.forall_mem_cons.1 each
      exact List.forall_mem_cons.2 ⟨plain_ordered first, plainItems_ordered others⟩

theorem plainEntries_ordered : {entries : List (String × Value)} →
    (∀ entry ∈ entries, entry.2.Ordered) → ∀ entry ∈ plainEntries entries, entry.2.Ordered
  | [], _ => by simp [plainEntries]
  | (key, value) :: entries, each => by
      obtain ⟨first, others⟩ := List.forall_mem_cons.1 each
      exact List.forall_mem_cons.2 ⟨plain_ordered first, plainEntries_ordered others⟩

end

/-! ## Reading back -/

theorem ofInt_toInt (number : Int64) : ofInt number.toInt = .int number := by
  have least := number.le_toInt
  have greatest := number.toInt_lt
  have word : -9223372036854775808 ≤ number.toInt ∧ number.toInt ≤ 9223372036854775807 := by omega
  simp [ofInt, word]

mutual

/-- A value is read back from its document. -/
theorem ofJson?_toJson : {value : Value} → value.Ordered → ofJson? value.toJson = some value
  | .null, _ | .bool _, _ | .float _, _ | .text _, _ => rfl
  | .int number, _ => by rw [toJson, ofJson?, ofInt_toInt]
  | .list items, ordered => by
      cases ordered with
      | list each =>
          rw [toJson, ofJson?, itemsOfJson?_itemsToJson each]
          rfl
  | .map entries, ordered => by
      cases ordered with
      | map sorted each =>
          rw [toJson, ofJson?, entriesOfJson?_entriesToJson each, Option.map_some,
            Dict.Sorted.ofPairs_eq sorted]

theorem itemsOfJson?_itemsToJson : {items : List Value} → (∀ item ∈ items, item.Ordered) →
    itemsOfJson? (itemsToJson items) = some items
  | [], _ => rfl
  | item :: items, each => by
      obtain ⟨first, others⟩ := List.forall_mem_cons.1 each
      rw [itemsToJson, itemsOfJson?, ofJson?_toJson first, itemsOfJson?_itemsToJson others]
      rfl

theorem entriesOfJson?_entriesToJson : {entries : List (String × Value)} →
    (∀ entry ∈ entries, entry.2.Ordered) → entriesOfJson? (entriesToJson entries) = some entries
  | [], _ => rfl
  | (key, value) :: entries, each => by
      obtain ⟨first, others⟩ := List.forall_mem_cons.1 each
      rw [entriesToJson, entriesOfJson?, ofJson?_toJson first, entriesOfJson?_entriesToJson others]
      rfl

end

/-- What is left of a value is read from the form that the text of its document shows. -/
theorem ofJson?_written {value : Value} (ordered : value.Ordered) :
    ofJson? value.toJson.written = some value.plain := by
  rw [← toJson_plain]
  exact ofJson?_toJson (plain_ordered ordered)

theorem mapOfJson?_written {entries : Dict Value} (ordered : (Value.map entries).Ordered) :
    mapOfJson? (mapToJson entries).written = some (plainEntries entries) := by
  have read := ofJson?_written ordered
  rw [plain] at read
  change (ofJson? (Value.map entries).toJson.written).bind map? = _
  rw [read]
  rfl

mutual

/-- A document with an unreadable piece is no value. -/
theorem ofJson?_unreadable : {document : Json} → document.isReadable = false →
    ofJson? document = none
  | .null, readable | .bool _, readable | .integer _, readable | .real _, readable
  | .text _, readable => by cases readable
  | .array items, readable => by
      rw [ofJson?, itemsOfJson?_unreadable readable]
      rfl
  | .object members, readable => by
      rw [ofJson?, entriesOfJson?_unreadable readable]
      rfl
  | .unreadable, _ => rfl

theorem itemsOfJson?_unreadable : {items : List Json} → Json.areReadable items = false →
    itemsOfJson? items = none
  | [], readable => by cases readable
  | item :: items, readable => by
      rw [itemsOfJson?]
      rcases Bool.and_eq_false_iff.1 readable with first | others
      · rw [ofJson?_unreadable first]
        rfl
      · rw [itemsOfJson?_unreadable others]
        cases ofJson? item <;> rfl

theorem entriesOfJson?_unreadable : {members : List (String × Json)} →
    Json.membersReadable members = false → entriesOfJson? members = none
  | [], readable => by cases readable
  | (key, document) :: members, readable => by
      rw [entriesOfJson?]
      rcases Bool.and_eq_false_iff.1 readable with first | others
      · rw [ofJson?_unreadable first]
        rfl
      · rw [entriesOfJson?_unreadable others]
        cases ofJson? document <;> rfl

end

/-! ## What is lost -/

mutual

/-- A value is left as it is exactly when no number in it is found that is not finite. -/
theorem plain_eq_self_iff : (value : Value) → (path : String) →
    value.plain = value ↔ value.nonFinite? path = none
  | .null, _ | .bool _, _ | .int _, _ | .text _, _ => by simp [plain, nonFinite?]
  | .float value, path => by
      rw [plain, nonFinite?]
      split <;> simp
  | .list items, path => by
      rw [plain, nonFinite?, Value.list.injEq, plainItems_eq_self_iff items path 0]
  | .map entries, path => by
      rw [plain, nonFinite?, Value.map.injEq, plainEntries_eq_self_iff entries path]

theorem plainItems_eq_self_iff : (items : List Value) → (path : String) → (index : Nat) →
    plainItems items = items ↔ nonFiniteItem? path index items = none
  | [], _, _ => by simp [plainItems, nonFiniteItem?]
  | item :: items, path, index => by
      rw [plainItems, nonFiniteItem?, List.cons.injEq, Option.or_eq_none_iff,
        plain_eq_self_iff item, plainItems_eq_self_iff items path (index + 1)]

theorem plainEntries_eq_self_iff : (entries : List (String × Value)) → (path : String) →
    plainEntries entries = entries ↔ nonFiniteMember? path entries = none
  | [], _ => by simp [plainEntries, nonFiniteMember?]
  | (key, value) :: entries, path => by
      rw [plainEntries, nonFiniteMember?, List.cons.injEq, Option.or_eq_none_iff, Prod.mk.injEq,
        plain_eq_self_iff value (joinKey path key), plainEntries_eq_self_iff entries path]
      simp

end

end VisualNovel.Value
