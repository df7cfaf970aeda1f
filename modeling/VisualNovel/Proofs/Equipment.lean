import VisualNovel.Proofs.State.Ordered
import VisualNovel.Proofs.Value

/-!
# The index of equipment

The index of a character follows from its slots. It sees of a slot only the item that is referred
to, so equal slots have the same index, and making a way through the slots does not change it.
-/

namespace VisualNovel.Character

/-- The index entries of slots. -/
def slotIndex (equipment : List Value) (slots : Dict Value) : Dict Value :=
  slots.filterMap fun entry => (equipped? equipment entry.2).map fun indexed => (entry.1, indexed)

/-- The index of a value that may hold slots. -/
def indexOf (equipment : List Value) (slots : Option Value) : Dict Value :=
  slotIndex equipment ((slots.bind Value.map?).getD [])

variable {left right : Value}

theorem equipped?_congr (same : left.slotItem? = right.slotItem?) (equipment : List Value) :
    equipped? equipment left = equipped? equipment right := by
  simp only [equipped?]
  rw [same]

theorem get?_slotIndex {slots : Dict Value} (sorted : Dict.Sorted slots) (equipment : List Value)
    (slot : String) :
    Dict.get? (slotIndex equipment slots) slot =
      (Dict.get? slots slot).bind (equipped? equipment) :=
  Dict.get?_filterMap sorted.distinct (fun _ => equipped? equipment) slot

theorem slotIndex_sorted {slots : Dict Value} (sorted : Dict.Sorted slots)
    (equipment : List Value) : Dict.Sorted (slotIndex equipment slots) :=
  sorted.filterMap fun _ => equipped? equipment

/-- The index has its maps in order. -/
theorem equipmentIndex_ordered {fields : Dict Value} (ordered : (Value.map fields).Ordered)
    {equipment : List Value} (each : ∀ item ∈ equipment, item.Ordered) :
    (Value.map (equipmentIndex fields equipment)).Ordered := by
  have sorted : Dict.Sorted (slots fields) := by
    simp only [slots]
    cases found : Dict.get? fields equipmentSlotsKey with
    | none => exact List.Pairwise.nil
    | some value =>
        cases value with
        | map entries => exact (ordered.entry found).sorted
        | _ => exact List.Pairwise.nil
  refine .map (slotIndex_sorted sorted equipment) ?_
  intro entry member
  obtain ⟨reference, -, indexed⟩ := Dict.mem_filterMap (fun _ => equipped? equipment) member
  simp only [equipped?] at indexed
  simp only [Option.bind_eq_bind, Option.bind_eq_some_iff, Option.some.injEq] at indexed
  obtain ⟨itemId, -, item, found, same⟩ := indexed
  have known := each item (List.mem_of_find?_eq_some found)
  rw [← same]
  simp only [indexEntry]
  have names : ["id", "item", "parts"].Pairwise fun left right => left < right := by decide
  refine .map (List.pairwise_map.1 (names : (List.map Prod.fst _).Pairwise _)) ?_
  intro field listed
  simp only [List.mem_cons, List.not_mem_nil, or_false] at listed
  rcases listed with rfl | rfl | rfl
  · exact .text itemId
  · exact known
  · cases parts : item.get? "parts" with
    | none => exact .list fun _ absurd => by cases absurd
    | some value =>
        cases item with
        | map entries => exact known.entry parts
        | _ => cases parts

/-! ## Equal slots -/

theorem slotIndex_congr {lefts rights : List (String × Value)}
    (equal : Value.sameEntries lefts rights = true) (equipment : List Value) :
    slotIndex equipment lefts = slotIndex equipment rights := by
  induction lefts generalizing rights with
  | nil =>
      cases rights with
      | nil => rfl
      | cons entry rights => cases equal
  | cons entry lefts ih =>
      cases rights with
      | nil => cases equal
      | cons other rights =>
          obtain ⟨leftKey, left⟩ := entry
          obtain ⟨rightKey, right⟩ := other
          simp only [Value.sameEntries, Bool.and_eq_true, beq_iff_eq] at equal
          obtain ⟨⟨rfl, first⟩, rest⟩ := equal
          have later := ih rest
          simp only [slotIndex] at later ⊢
          simp only [List.filterMap_cons]
          rw [equipped?_congr (Value.slotItem?_congr first), later]

theorem indexOf_congr {found other : Option Value} (equal : Value.agree found other = true)
    (equipment : List Value) : indexOf equipment found = indexOf equipment other := by
  cases found with
  | none =>
      cases other with
      | none => rfl
      | some right => cases equal
  | some left =>
      cases other with
      | none => cases equal
      | some right =>
          change Value.same left right = true at equal
          unfold Value.same at equal
          split at equal
          · rfl
          · rfl
          · rfl
          · rfl
          · rfl
          · rfl
          · exact slotIndex_congr equal equipment
          · cases equal

/-! ## Making a way through slots -/

open Value (Opened passage)

theorem opened_itemIdText? (opens : Opened left right) :
    left.itemIdText? = right.itemIdText? := by
  cases opens <;> rfl

/-- What is seen of neither an absent value nor the empty map is seen of the entry passed through as
it was before. -/
theorem bind_passage {β : Type} {look : Value → Option β} (absent : look .null = none)
    (empty : look Value.emptyMap = none) (entries : Dict Value) (key : String) :
    (Dict.get? entries key).bind look = look (passage entries key) := by
  simp only [passage]
  split
  · rename_i missing
    rw [missing, empty]
    rfl
  · rename_i found
    rw [found, empty]
    exact absent
  · rename_i found
    rw [found]
    rfl

/-- The item identifier under a key stays when a way is made. -/
theorem opened_field (opens : Opened left right) (key : String) :
    (left.get? key).bind Value.itemIdText? = (right.get? key).bind Value.itemIdText? := by
  cases opens with
  | same => rfl
  | @entry entries name child container opens =>
      change (Dict.get? entries key).bind _ = (Dict.get? (Dict.insert name child entries) key).bind _
      rw [Dict.get?_insert]
      split
      · rename_i same
        subst same
        rw [bind_passage rfl rfl, Option.bind_some]
        exact opened_itemIdText? opens
      · rfl
  | item found opens => rfl

/-- A reference stays to the same item when a way is made. -/
theorem opened_slotItem? (opens : Opened left right) : left.slotItem? = right.slotItem? := by
  have direct := opened_field opens "id"
  cases opens with
  | same => rfl
  | @entry entries name child container opens =>
      simp only [Value.slotItem?]
      rw [direct]
      congr 1
      change ((Dict.get? entries "item").bind fun item => item.get? "id").bind _ =
        ((Dict.get? (Dict.insert name child entries) "item").bind fun item =>
          item.get? "id").bind _
      rw [Dict.get?_insert]
      split
      · rename_i same
        subst same
        rw [Option.bind_some, ← opened_field opens "id", Option.bind_assoc]
        exact bind_passage rfl rfl entries "item"
      · rfl
  | item found opens => rfl

/-- Making a way through slots leaves their index as it is. -/
theorem opened_slotIndex {slots opened : Dict Value} (ordered : (Value.map slots).Ordered)
    (opens : Opened (.map slots) (.map opened)) (equipment : List Value) :
    slotIndex equipment slots = slotIndex equipment opened := by
  have sorted := (opens.ordered ordered).sorted
  apply (slotIndex_sorted ordered.sorted equipment).ext (slotIndex_sorted sorted equipment)
  intro slot
  rw [get?_slotIndex ordered.sorted, get?_slotIndex sorted]
  cases opens with
  | same => rfl
  | @entry _ name child container opens =>
      rw [Dict.get?_insert]
      split
      · rename_i same
        subst same
        rw [Option.bind_some, ← equipped?_congr (opened_slotItem? opens) equipment]
        exact bind_passage rfl rfl slots name
      · rfl

theorem indexOf_passage (equipment : List Value) (entries : Dict Value) (key : String) :
    indexOf equipment (Dict.get? entries key) = indexOf equipment (some (passage entries key)) := by
  simp only [passage]
  split
  · rename_i missing
    rw [missing]
    rfl
  · rename_i found
    rw [found]
    rfl
  · rename_i found
    rw [found]

/-- Making a way through the fields of a character leaves its index as it is. -/
theorem opened_equipmentIndex {fields opened : Dict Value} (ordered : (Value.map fields).Ordered)
    (opens : Opened (.map fields) (.map opened)) (equipment : List Value) :
    equipmentIndex fields equipment = equipmentIndex opened equipment := by
  change indexOf equipment (Dict.get? fields equipmentSlotsKey) =
    indexOf equipment (Dict.get? opened equipmentSlotsKey)
  cases opens with
  | same => rfl
  | @entry _ name child container opens =>
      rw [Dict.get?_insert]
      split
      · rename_i same
        subst same
        rw [indexOf_passage]
        generalize passed : passage fields equipmentSlotsKey = slots at container opens
        cases opens with
        | same => rfl
        | @entry slots slot child inner opens =>
            have inside : (Value.map slots).Ordered := passed ▸ ordered.passage equipmentSlotsKey
            exact opened_slotIndex inside (.entry inner opens) equipment
        | item found opens => rfl
      · rfl

end VisualNovel.Character
