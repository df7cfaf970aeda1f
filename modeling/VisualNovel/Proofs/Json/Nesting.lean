import VisualNovel.Proofs.Json.RoundTrip

/-!
# How deep documents are nested

A document that is not nested too deeply is read as a whole; in any other a piece is unreadable. The
form that the text shows is nested as deep, and has the same text.
-/

namespace VisualNovel.Json

mutual

/-- How deep arrays and objects are nested. -/
def nesting : Json → Nat
  | .array items => nestingItems items + 1
  | .object members => nestingMembers members + 1
  | _ => 0

/-- How deep arrays and objects are nested in one of the items. -/
def nestingItems : List Json → Nat
  | [] => 0
  | item :: items => max (nesting item) (nestingItems items)

/-- How deep arrays and objects are nested in one of the members. -/
def nestingMembers : List (String × Json) → Nat
  | [] => 0
  | (_, value) :: members => max (nesting value) (nestingMembers members)

end

mutual

/-- Nothing is lost of a document that is not nested too deeply. -/
theorem cut_eq_self : (document : Json) → (depth : Nat) →
    depth + document.nesting ≤ nestingLimit → cut depth document = document
  | .null, _, _ | .bool _, _, _ | .integer _, _, _ | .real _, _, _ | .text _, _, _
  | .unreadable, _, _ => rfl
  | .array items, depth, within => by
      simp only [nesting] at within
      rw [cut, if_pos (by omega), cutItems_eq_self items (depth + 1) (by omega)]
  | .object members, depth, within => by
      simp only [nesting] at within
      rw [cut, if_pos (by omega), cutMembers_eq_self members (depth + 1) (by omega)]

theorem cutItems_eq_self : (items : List Json) → (depth : Nat) →
    depth + nestingItems items ≤ nestingLimit → cutItems depth items = items
  | [], _, _ => rfl
  | item :: items, depth, within => by
      simp only [nestingItems] at within
      rw [cutItems, cut_eq_self item depth (by omega), cutItems_eq_self items depth (by omega)]

theorem cutMembers_eq_self : (members : List (String × Json)) → (depth : Nat) →
    depth + nestingMembers members ≤ nestingLimit → cutMembers depth members = members
  | [], _, _ => rfl
  | (name, value) :: members, depth, within => by
      simp only [nestingMembers] at within
      rw [cutMembers, cut_eq_self value depth (by omega),
        cutMembers_eq_self members depth (by omega)]

end

mutual

/-- What is nested too deeply cannot be read. -/
theorem isReadable_cut : (document : Json) → (depth : Nat) →
    nestingLimit < depth + document.nesting → depth ≤ nestingLimit →
    (cut depth document).isReadable = false
  | .null, _, beyond, within | .bool _, _, beyond, within | .integer _, _, beyond, within
  | .real _, _, beyond, within | .text _, _, beyond, within
  | .unreadable, _, beyond, within => absurd beyond (Nat.not_lt.2 within)
  | .array items, depth, beyond, within => by
      simp only [nesting] at beyond
      rw [cut]
      split
      · exact areReadable_cutItems items (depth + 1) (by omega) (by omega)
      · rfl
  | .object members, depth, beyond, within => by
      simp only [nesting] at beyond
      rw [cut]
      split
      · exact membersReadable_cutMembers members (depth + 1) (by omega) (by omega)
      · rfl

theorem areReadable_cutItems : (items : List Json) → (depth : Nat) →
    nestingLimit < depth + nestingItems items → depth ≤ nestingLimit →
    areReadable (cutItems depth items) = false
  | [], _, beyond, within => absurd beyond (Nat.not_lt.2 within)
  | item :: items, depth, beyond, within => by
      simp only [nestingItems] at beyond
      rw [cutItems, areReadable, Bool.and_eq_false_iff]
      rcases Nat.le_total (nesting item) (nestingItems items) with deeper | deeper
      · exact .inr (areReadable_cutItems items depth (by omega) within)
      · exact .inl (isReadable_cut item depth (by omega) within)

theorem membersReadable_cutMembers : (members : List (String × Json)) → (depth : Nat) →
    nestingLimit < depth + nestingMembers members → depth ≤ nestingLimit →
    membersReadable (cutMembers depth members) = false
  | [], _, beyond, within => absurd beyond (Nat.not_lt.2 within)
  | (name, value) :: members, depth, beyond, within => by
      simp only [nestingMembers] at beyond
      rw [cutMembers, membersReadable, Bool.and_eq_false_iff]
      rcases Nat.le_total (nesting value) (nestingMembers members) with deeper | deeper
      · exact .inr (membersReadable_cutMembers members depth (by omega) within)
      · exact .inl (isReadable_cut value depth (by omega) within)

end

/-! ## What the text shows -/

mutual

/-- The text of a document shows nothing else than the text of its written form. -/
theorem indentedAt_written : (document : Json) → (level : Nat) →
    indentedAt level document.written = indentedAt level document
  | .null, _ | .bool _, _ | .integer _, _ | .text _, _ | .unreadable, _ => rfl
  | .real value, level => by
      rw [written]
      split
      · rfl
      · rename_i infinite
        rw [indentedAt, indentedAt, realText, if_neg infinite]
  | .array items, level => by
      rw [written, indentedAt, indentedAt, indentedItems_written items]
  | .object members, level => by
      rw [written, indentedAt, indentedAt, indentedMembers_written members]

theorem indentedItems_written : (items : List Json) → (level : Nat) →
    indentedItems level (writtenItems items) = indentedItems level items
  | [], _ => rfl
  | item :: items, level => by
      rw [writtenItems, indentedItems, indentedItems, indentedAt_written item,
        indentedItems_written items]

theorem indentedMembers_written : (members : List (String × Json)) → (level : Nat) →
    indentedMembers level (writtenMembers members) = indentedMembers level members
  | [], _ => rfl
  | (name, value) :: members, level => by
      rw [writtenMembers, indentedMembers, indentedMembers, indentedAt_written value,
        indentedMembers_written members]

end

mutual

theorem nesting_written : (document : Json) → document.written.nesting = document.nesting
  | .null | .bool _ | .integer _ | .text _ | .unreadable => rfl
  | .real value => by
      rw [written]
      split <;> rfl
  | .array items => by rw [written, nesting, nesting, nestingItems_written items]
  | .object members => by rw [written, nesting, nesting, nestingMembers_written members]

theorem nestingItems_written : (items : List Json) →
    nestingItems (writtenItems items) = nestingItems items
  | [] => rfl
  | item :: items => by
      rw [writtenItems, nestingItems, nestingItems, nesting_written item,
        nestingItems_written items]

theorem nestingMembers_written : (members : List (String × Json)) →
    nestingMembers (writtenMembers members) = nestingMembers members
  | [] => rfl
  | (name, value) :: members => by
      rw [writtenMembers, nestingMembers, nestingMembers, nesting_written value,
        nestingMembers_written members]

end

end VisualNovel.Json
