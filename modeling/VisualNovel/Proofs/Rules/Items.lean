import VisualNovel.Proofs.Rules.Conditions
import VisualNovel.Proofs.State.Addressing
import VisualNovel.Proofs.State.Wearing
import VisualNovel.Session.Stage

/-!
# Checks for items

That a character has an item can be asked of all its slots, of one slot after the other, of the
character itself, and of its index. The first, the third and the last take any reference to the item.
A slot is compared by the identifier of its item as a text, so it equals this text and no other
reference to the item.
-/

namespace VisualNovel

/-- A text equals itself and nothing else. -/
theorem Value.looseEq_text {content : String} {value : Value} :
    (Value.text content).looseEq value = true ↔ value = .text content := by
  change Value.same (.text content) value = true ↔ _
  cases value with
  | text other =>
      simp only [Value.same, beq_iff_eq, Value.text.injEq]
      exact eq_comm
  | _ => simp [Value.same]

namespace Check

variable {slots : Dict Value} {slot id itemId : String} {value : Value}

/-- A slot refers to the item. -/
def Refers (slots : Dict Value) (slot itemId : String) : Prop :=
  ∃ reference, Dict.get? slots slot = some reference ∧ reference.slotItem? = some itemId

theorem mem_keys_of_refers (refers : Refers slots slot itemId) : slot ∈ Dict.keys slots := by
  obtain ⟨reference, found, -⟩ := refers
  rw [Dict.mem_keys, found]
  rfl

theorem any_slotItem?_iff (sorted : Dict.Sorted slots) :
    (slots.any fun entry => entry.2.slotItem? = some itemId) = true ↔
      ∃ slot, Refers slots slot itemId := by
  simp only [List.any_eq_true, decide_eq_true_eq]
  constructor
  · rintro ⟨⟨slot, reference⟩, listed, named⟩
    exact ⟨slot, reference, sorted.get?_of_mem listed, named⟩
  · rintro ⟨slot, reference, found, named⟩
    exact ⟨(slot, reference), Dict.mem_of_get? found, named⟩

/-- Slots hold what a value refers to when one of them refers to the same. -/
theorem holdsItem_iff (sorted : Dict.Sorted slots) (names : value.slotItem? = some itemId) :
    holdsItem slots value = true ↔ ∃ slot, Refers slots slot itemId := by
  simp only [holdsItem]
  rw [names]
  exact any_slotItem?_iff sorted

/-- Among values that name an item, a slot equals the identifier of its own item as a text. -/
theorem equals_itemIn_iff (names : value.slotItem? = some itemId) :
    ComparisonOperator.equals (itemIn slots slot) value = true ↔
      value = .text itemId ∧ Refers slots slot itemId := by
  simp only [ComparisonOperator.equals, itemIn, Refers]
  cases found : Dict.get? slots slot with
  | none => simp
  | some reference =>
      cases item : reference.slotItem? with
      | none =>
          have unequal : Value.null.looseEq value = false := by
            cases value with
            | null => cases names
            | _ => rfl
          simp [item, unequal]
      | some held =>
          simp only [Option.map_some, Option.any_some, Option.getD_some, Value.looseEq_text,
            Option.some.injEq, exists_eq_left', item]
          constructor
          · intro same
            subst same
            have named := Value.eq_of_slotItem?_text names
            exact ⟨congrArg Value.text named, named⟩
          · rintro ⟨same, rfl⟩
            exact same

/-! ## The checks -/

section Checks

variable {σ : Type} [RuleHost σ] (host : σ)

/-- The check that a character has an item. -/
def hasItem (id : String) (value : Value) : Check σ :=
  .equipment id "hasItem" (some .has) value

/-- The check that a slot of a character equals a value. The slots themselves are named, as opposed to
the check of all of them. -/
def slotEquals (id slot : String) (value : Value) : Check σ :=
  .equipment id slot (some .eq) value

theorem evaluate_hasItem_eq (id : String) (value : Value) :
    (hasItem id value).evaluate host = holdsItem (slotsOf host id) value := by
  simp only [hasItem]
  rw [evaluate_hasItem, if_pos (.inl rfl)]

/-- Some slot equals a value that names an item when the character has the item and the value is its
identifier as a text; or else a slot goes by the name that asks all slots. -/
theorem exists_slotEquals_iff (sorted : Dict.Sorted (slotsOf host id))
    (names : value.slotItem? = some itemId) :
    (∃ slot ∈ Dict.keys (slotsOf host id), (slotEquals id slot value).evaluate host = true) ↔
      (hasItem id value).evaluate host = true ∧
        (value = .text itemId ∨ "hasItem" ∈ Dict.keys (slotsOf host id)) := by
  have all : (slotEquals id "hasItem" value).evaluate host =
      (hasItem id value).evaluate host := by
    rw [evaluate_hasItem_eq]
    simp only [slotEquals]
    rw [evaluate_hasItem, if_pos (.inr rfl)]
  have one : ∀ {slot}, slot ≠ "hasItem" → ((slotEquals id slot value).evaluate host = true ↔
      value = .text itemId ∧ Refers (slotsOf host id) slot itemId) := by
    intro slot named
    simp only [slotEquals]
    rw [evaluate_slot named]
    exact equals_itemIn_iff names
  have holds := holdsItem_iff sorted names
  rw [← evaluate_hasItem_eq host] at holds
  constructor
  · rintro ⟨slot, listed, equal⟩
    by_cases named : slot = "hasItem"
    · subst named
      exact ⟨all ▸ equal, .inr listed⟩
    · obtain ⟨same, refers⟩ := (one named).1 equal
      exact ⟨holds.2 ⟨slot, refers⟩, .inl same⟩
  · rintro ⟨has, same | listed⟩
    · obtain ⟨slot, refers⟩ := holds.1 has
      refine ⟨slot, mem_keys_of_refers refers, ?_⟩
      by_cases named : slot = "hasItem"
      · subst named
        rw [all]
        exact has
      · exact (one named).2 ⟨same, refers⟩
    · exact ⟨"hasItem", listed, all.trans has⟩

/-! ## Hosts of a state -/

variable {host} {state : StateTree}

theorem slotsOf_sorted (reads : ∀ path, RuleHost.read host path = state.read? path)
    (inOrder : state.InOrder) (id : String) : Dict.Sorted (slotsOf host id) := by
  simp only [slotsOf]
  rw [reads]
  cases found : state.read? ("character." ++ id ++ "." ++ equipmentSlotsKey) with
  | none => exact List.Pairwise.nil
  | some value =>
      cases value with
      | map slots => exact (inOrder.read? found).sorted
      | _ => exact List.Pairwise.nil

/-- Checks see the slots of the character under an identifier that a path can name. -/
theorem slotsOf_eq (reads : ∀ path, RuleHost.read host path = state.read? path)
    (named : Segment.IsKey id) :
    slotsOf host id =
      ((state.character? id).map fun character => Character.slots character.fields).getD [] := by
  have inSlots : Segment.IsKey equipmentSlotsKey := by decide +kernel
  simp only [slotsOf]
  rw [reads, state.read?_field named inSlots (by decide)]
  cases state.character? id <;> rfl

/-- A character has an item for checks when it has it. -/
theorem evaluate_hasItem_character (reads : ∀ path, RuleHost.read host path = state.read? path)
    (named : Segment.IsKey id) (names : value.slotItem? = some itemId) :
    (hasItem id value).evaluate host =
      (state.character? id).any fun character => character.hasItem itemId := by
  rw [evaluate_hasItem_eq, slotsOf_eq reads named]
  simp only [holdsItem]
  rw [names]
  cases state.character? id <;> rfl

/-- Behind any run of operations, on a host that reads the state, the checks of the slots agree with
the check for an item on its identifier as a text. On another reference to the item they hold only
if a slot goes by the name that asks all slots, while the check for an item takes every reference
alike. It says what the character says, if its identifier can stand in a path, and then it holds
for whatever the index shows. -/
theorem evaluate_items {operations : List StateOperation}
    (ordered : ∀ operation ∈ operations, operation.InOrder)
    (reads : ∀ path, RuleHost.read host path = (StateTree.empty.performAll operations).read? path)
    (id : String) (names : value.slotItem? = some itemId) :
    ((∃ slot ∈ Dict.keys (slotsOf host id), (slotEquals id slot value).evaluate host = true) ↔
        (hasItem id value).evaluate host = true ∧
          (value = .text itemId ∨ "hasItem" ∈ Dict.keys (slotsOf host id))) ∧
      (hasItem id value).evaluate host = (hasItem id (.text itemId)).evaluate host ∧
      (Segment.IsKey id →
        (hasItem id value).evaluate host =
            ((StateTree.empty.performAll operations).character? id).any
              (fun character => character.hasItem itemId) ∧
          ∀ character, (StateTree.empty.performAll operations).character? id = some character →
            ∀ slot entry, Dict.get? character.equipmentBySlot slot = some entry →
              ∃ worn, entry.get? "id" = some (.text worn) ∧
                (hasItem id (.text worn)).evaluate host = true) := by
  have current := (StateTree.empty_holds.performAll ordered).current
  refine ⟨exists_slotEquals_iff host (slotsOf_sorted reads current.inOrder id) names, ?_, ?_⟩
  · rw [evaluate_hasItem_eq, evaluate_hasItem_eq]
    simp only [holdsItem]
    rw [names, Value.slotItem?_text names]
  · intro named
    refine ⟨evaluate_hasItem_character reads named names, ?_⟩
    intro character found slot entry indexed
    rw [current.characters found] at indexed
    have inOrder := (current.inOrder.characters found).fields
    obtain ⟨slots, reference, worn, item, wears, held, refers, -, rfl⟩ :=
      (Character.get?_equipmentIndex inOrder slot entry).1 indexed
    have seen : slotsOf host id = slots := by
      rw [slotsOf_eq reads named, found]
      simp only [Character.slots, Option.map_some, Option.getD_some]
      rw [wears]
      rfl
    refine ⟨worn, rfl, ?_⟩
    rw [evaluate_hasItem_eq, seen]
    exact (holdsItem_iff (inOrder.entry wears).sorted (Value.slotItem?_text refers)).2
      ⟨slot, reference, held, refers⟩

end Checks

/-- A character with item number seven in a hand, and the same in its catalogue. -/
def armed : CharacterRecord where
  fields := [("equipment_slots", .map [("hand", .int 7)])]
  sprites := .null
  equipment := [.map [("id", .int 7)]]

/-- A stage with this character. -/
def armory : Stage where
  interpreter := { Interpreter.new Library.empty.toContent .standard with
    state := StateTree.empty.performAll [.insertCharacter "mc" armed] }
  location := none
  notifications := []

theorem armed_inOrder : armed.InOrder where
  fields := Value.emptyMap_ordered.insert "equipment_slots"
    (Value.emptyMap_ordered.insert "hand" (.int 7))
  sprites := .null
  equipment := by
    intro item listed
    rw [List.mem_singleton.1 listed]
    exact Value.emptyMap_ordered.insert "id" (.int 7)

theorem evaluate_items_armed :
    (Value.int 7).slotItem? = some "7" ∧ Segment.IsKey "mc" ∧
      (hasItem "mc" (.int 7)).evaluate armory = true ∧
      (∀ slot ∈ Dict.keys (slotsOf armory "mc"),
        (slotEquals "mc" slot (.int 7)).evaluate armory = false) ∧
      (∃ slot ∈ Dict.keys (slotsOf armory "mc"),
        (slotEquals "mc" slot (.text "7")).evaluate armory = true) ∧
      ∃ character entry worn,
        (StateTree.empty.performAll [.insertCharacter "mc" armed]).character? "mc" =
            some character ∧
          Dict.get? character.equipmentBySlot "hand" = some entry ∧
          entry.get? "id" = some (.text worn) ∧
          (hasItem "mc" (.text worn)).evaluate armory = true := by
  have ordered : ∀ operation ∈ [StateOperation.insertCharacter "mc" armed],
      operation.InOrder := by
    intro operation listed
    rw [List.mem_singleton.1 listed]
    exact armed_inOrder
  have named : Segment.IsKey "mc" := by decide +kernel
  have reads : ∀ path, RuleHost.read armory path =
      (StateTree.empty.performAll [.insertCharacter "mc" armed]).read? path := fun _ => rfl
  have number : (Value.int 7).slotItem? = some "7" := by decide +kernel
  have text : (Value.text "7").slotItem? = some "7" := by decide +kernel
  obtain ⟨byNumber, alike, seen⟩ := evaluate_items ordered reads "mc" number
  obtain ⟨byText, -, -⟩ := evaluate_items ordered reads "mc" text
  have has : (hasItem "mc" (.int 7)).evaluate armory = true := by
    rw [(seen named).1]
    decide +kernel
  have free : "hasItem" ∉ Dict.keys (slotsOf armory "mc") := by decide +kernel
  obtain ⟨worn, shown, held⟩ := (seen named).2 _ rfl "hand" _ rfl
  refine ⟨number, named, has, ?_, ?_, _, _, worn, rfl, rfl, shown, held⟩
  · intro slot listed
    apply Bool.eq_false_iff.2
    intro equal
    rcases (byNumber.1 ⟨slot, listed, equal⟩).2 with same | listed
    · cases same
    · exact free listed
  · apply byText.2
    rw [← alike]
    exact ⟨has, .inl rfl⟩

end Check

end VisualNovel
