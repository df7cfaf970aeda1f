import Mathlib.Data.List.Basic

/-!
# Lists that are read item by item

A list is read when each of its items is. It is refused when one of them is refused, and for no
other reason.
-/

namespace VisualNovel

variable {α β : Type} {decode : α → Option β} {items : List α} {values : List β}

theorem mapM_eq_some {result : α → β} (each : ∀ item ∈ items, decode item = some (result item)) :
    items.mapM decode = some (items.map result) := by
  induction items with
  | nil => rfl
  | cons item items ih =>
      obtain ⟨first, others⟩ := List.forall_mem_cons.1 each
      rw [List.mapM_cons, first, ih others]
      rfl

theorem mapM_eq_none_iff : items.mapM decode = none ↔ ∃ item ∈ items, decode item = none := by
  induction items with
  | nil => simp
  | cons first items ih =>
      rw [List.mapM_cons, List.exists_mem_cons_iff, ← ih]
      cases decode first with
      | none => simp
      | some value => cases items.mapM decode <;> simp

/-- What is read from a list with a first item begins with what is read from that item. -/
theorem mapM_cons_eq_some {first : α} (decoded : (first :: items).mapM decode = some values) :
    ∃ value others, decode first = some value ∧ items.mapM decode = some others ∧
      values = value :: others := by
  rw [List.mapM_cons] at decoded
  simp only [Option.bind_eq_bind, Option.pure_def, Option.bind_eq_some_iff] at decoded
  obtain ⟨value, read, others, rest, same⟩ := decoded
  exact ⟨value, others, read, rest, (Option.some.inj same).symm⟩

/-- Every value is read from one of the items. -/
theorem mem_of_mapM (decoded : items.mapM decode = some values) {value : β}
    (member : value ∈ values) : ∃ item ∈ items, decode item = some value := by
  induction items generalizing values with
  | nil =>
      cases decoded
      cases member
  | cons item items ih =>
      obtain ⟨first, others, read, rest, rfl⟩ := mapM_cons_eq_some decoded
      rcases List.mem_cons.1 member with rfl | later
      · exact ⟨item, List.mem_cons_self .., read⟩
      · obtain ⟨origin, inside, decodes⟩ := ih rest later
        exact ⟨origin, List.mem_cons_of_mem item inside, decodes⟩

end VisualNovel
