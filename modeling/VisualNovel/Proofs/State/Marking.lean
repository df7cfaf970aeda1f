import VisualNovel.Proofs.State.Writing
import VisualNovel.Saves.Codec

/-!
# What a revision stands for

Every change of a state moves its revision by one. A write resolves its path first, and this may make
maps without a mark; but a way that was made leads to a place where the value can be stored, so the
write is marked. Among fewer changes than there are revisions, states of the same revision have the
same contents.
-/

namespace VisualNovel

/-- A saved game whose maps have their keys in order. -/
structure SaveRecord.InOrder (game : SaveRecord) : Prop where
  global : (Value.map game.global).Ordered
  deltas : ∀ delta ∈ game.deltas, ∀ field ∈ delta.2, field.2.Ordered
  visible : ∀ character ∈ game.visible, ∀ field ∈ character.displayFields, field.2.Ordered

namespace StateTree

/-- What becomes of a state whose maps are in order by a number of marked changes: the revision has
moved by as many, and without any the contents are the same. -/
def Marks (most : Nat) (before after : StateTree) : Prop :=
  before.InOrder → after.InOrder ∧ ∃ marks ≤ most,
    after.revision = before.revision + UInt64.ofNat marks ∧
      (marks = 0 → before.SameContents after)

variable {state before between after : StateTree} {first second most : Nat}

/-! ## Counting changes -/

theorem Marks.refl (state : StateTree) : Marks 0 state state := by
  intro inOrder
  exact ⟨inOrder, 0, Nat.le_refl 0, (UInt64.add_zero _).symm, fun _ => .refl state⟩

theorem Marks.mono (marks : Marks first before after) (fewer : first ≤ most) :
    Marks most before after := by
  intro inOrder
  obtain ⟨kept, count, few, rest⟩ := marks inOrder
  exact ⟨kept, count, Nat.le_trans few fewer, rest⟩

theorem Marks.trans (start : Marks first before between) (rest : Marks second between after) :
    Marks (first + second) before after := by
  intro inOrder
  obtain ⟨inOrder, early, few, moved, still⟩ := start inOrder
  obtain ⟨inOrder, late, fewer, movedOn, stillThen⟩ := rest inOrder
  refine ⟨inOrder, early + late, Nat.add_le_add few fewer, ?_, ?_⟩
  · rw [movedOn, moved, UInt64.add_assoc, UInt64.ofNat_add]
  · intro none
    obtain ⟨before, after⟩ := Nat.add_eq_zero_iff.1 none
    exact (still before).trans (stillThen after)

/-- A change with one mark. -/
theorem Marks.one (kept : before.InOrder → after.InOrder)
    (moved : after.revision = before.revision + 1) : Marks 1 before after :=
  fun inOrder => ⟨kept inOrder, 1, Nat.le_refl 1, moved, fun absurd => by cases absurd⟩

/-- Among fewer changes than there are revisions, a state of the same revision has the same
contents. -/
theorem Marks.contents (marks : Marks most before after) (inOrder : before.InOrder)
    (few : most < UInt64.size) (same : after.revision = before.revision) :
    before.SameContents after := by
  obtain ⟨-, count, within, moved, still⟩ := marks inOrder
  apply still
  rw [same] at moved
  have none : UInt64.ofNat count = 0 := by
    rw [← UInt64.add_eq_left (a := before.revision)]
    exact moved.symm
  have zero := congrArg UInt64.toNat none
  rw [UInt64.toNat_ofNat_of_lt' (Nat.lt_of_le_of_lt within few)] at zero
  exact zero

/-! ## Changes of a state -/

theorem touch_marks (state : StateTree) : Marks 1 state state.touch :=
  .one (·.touch) rfl

theorem setGlobal_marks (state : StateTree) {entries : Dict Value}
    (ordered : (Value.map entries).Ordered) : Marks 1 state (state.setGlobal entries) :=
  .one (fun inOrder => ⟨inOrder.sorted, inOrder.characters, ordered⟩) rfl

theorem clear_marks (state : StateTree) : Marks 1 state state.clear :=
  .one (fun _ => ⟨List.Pairwise.nil, (by intro id character found; cases found),
    Value.emptyMap_ordered⟩) rfl

theorem insertCharacter_marks (state : StateTree) {character : Character}
    (new : character.InOrder) : Marks 1 state (state.insertCharacter character) :=
  .one (fun inOrder => inOrder.touch.replace character.id new) rfl

theorem updateCharacter?_marks {id : String} {update : Character → Character}
    (keeps : ∀ {character}, character.InOrder → (update character).InOrder)
    (updated : state.updateCharacter? id update = some after) : Marks 1 state after := by
  obtain ⟨character, found, rfl⟩ := Option.map_eq_some_iff.1 updated
  exact .one (fun inOrder => inOrder.touch.replace id (keeps (inOrder.characters found))) rfl

/-! ## Writing -/

/-- Where a value can be stored, storing it moves the revision by one. -/
theorem InOrder.set (inOrder : state.InOrder) {handle : Handle} {entries : Dict Value}
    {value : Value} (found : state.rootMap? handle.root = some entries)
    (fits : (Value.storeAt? handle.key value handle.container (.map entries)).isSome = true)
    (ordered : value.Ordered) :
    (state.set handle value).1.InOrder ∧
      (state.set handle value).1.revision = state.revision + 1 := by
  obtain ⟨stored, stores⟩ := Option.isSome_iff_exists.1 fits
  obtain ⟨name, child, rfl, -⟩ := Value.storeAt?_map stores
  have put := inOrder.putRootMap handle.root ((inOrder.rootMap? found).storeAt? ordered stores)
  rw [set_eq found stores]
  constructor
  · simp only [withStored]
    split
    · exact put.touch.reindexRoot handle.root
    · exact put.touch
  · exact revision_withStored state handle _

/-- A path that resolves leads to a place where a value can be stored, and one that does not leaves
the state as it is. -/
theorem InOrder.resolve (inOrder : state.InOrder) (text : String) :
    state.resolve text = (state, none) ∨ ∃ resolved handle,
      state.resolve text = (resolved, some handle) ∧ resolved.InOrder ∧
        ∀ value : Value, value.Ordered → (resolved.set handle value).1.InOrder ∧
          (resolved.set handle value).1.revision = state.revision + 1 := by
  cases inOrder.resolves text with
  | inl lost => exact .inl lost
  | inr found =>
      obtain ⟨opened, handle, ⟨first, route, entries, asks, opens⟩, resolved⟩ := found
      have way := Value.openRoute_way (splitLast first route).2 (splitLast first route).1
        (.map entries)
      have kept := Value.openRoute_opened (splitLast first route).2 (splitLast first route).1
        (.map entries)
      rw [opens] at way kept
      have put := inOrder.putRootMap handle.root (kept.ordered (inOrder.rootMap? asks.present))
      right
      refine ⟨state.putRootMap handle.root opened, handle, resolved, put, ?_⟩
      intro value new
      rw [← revision_putRootMap state handle.root opened]
      exact put.set (rootMap?_putRootMap asks.present opened) (way.storeAt? rfl value) new

/-- Writing a path is a change with one mark, or none. -/
theorem write_marks (state : StateTree) (text : String) {value : Value} (ordered : value.Ordered) :
    Marks 1 state (state.write text value).1 := by
  intro inOrder
  simp only [StateTree.write]
  rcases inOrder.resolve text with lost | ⟨resolved, handle, leads, kept, stores⟩
  · rw [lost]
    exact (Marks.refl state).mono (Nat.zero_le 1) inOrder
  · rw [leads]
    obtain ⟨stored, moved⟩ := stores value ordered
    exact Marks.one (fun _ => stored) moved inOrder

/-! ## Assigning -/

/-- An assignment is a change with one mark, or none. -/
theorem assigned_marks (state : StateTree) (expression : String) :
    Marks 1 state (state.assigned expression) := by
  have unchanged : Marks 1 state state := (Marks.refl state).mono (Nat.zero_le 1)
  intro inOrder
  unfold StateTree.assigned StateTree.assign
  split
  · exact unchanged inOrder
  · rename_i assignment _
    rcases inOrder.resolve assignment.target with lost | ⟨resolved, handle, leads, kept, stores⟩
    · rw [lost]
      exact unchanged inOrder
    · rw [leads]
      have stored (value : Value) (ordered : value.Ordered) :=
        Marks.one (fun _ => (stores value ordered).1) (stores value ordered).2 inOrder
      apply stored
      split
      · exact kept.operandValue assignment.operand
      · exact Value.ofFloat_ordered _

/-! ## Laying a record over a state -/

theorem overlay_marks (state : StateTree) (id : String) {fields : List (String × Value)}
    (each : ∀ field ∈ fields, field.2.Ordered) :
    Marks 1 state (SaveCodec.overlay state id fields) := by
  simp only [SaveCodec.overlay]
  cases updated : state.updateCharacter? id fun character =>
      character.withFields (Dict.union character.fields fields) with
  | none => exact (Marks.refl state).mono (Nat.zero_le 1)
  | some after =>
      apply updateCharacter?_marks ?_ updated
      intro character inOrder
      exact (inOrder.changed (Value.union_ordered inOrder.fields each)).reindexed

theorem foldl_overlay_marks {α : Type} (name : α → String) (fields : α → List (String × Value))
    (items : List α) (each : ∀ item ∈ items, ∀ field ∈ fields item, field.2.Ordered)
    (state : StateTree) :
    Marks items.length state
      (items.foldl (fun state item => SaveCodec.overlay state (name item) (fields item)) state) := by
  induction items generalizing state with
  | nil => exact .refl state
  | cons item items ih =>
      have first := overlay_marks state (name item) (each item (List.mem_cons_self ..))
      have rest := ih (fun other member => each other (List.mem_cons_of_mem item member))
        (SaveCodec.overlay state (name item) (fields item))
      exact (first.trans rest).mono (Nat.le_of_eq (Nat.add_comm 1 items.length))

/-- A record is laid over a state by a change for each character it mentions and for the global
map. -/
theorem overlaid_marks {game : SaveRecord} (inOrder : game.InOrder) (state : StateTree) :
    Marks (game.deltas.length + game.visible.length + 1) state
      (SaveCodec.overlaid game state) := by
  have changed := foldl_overlay_marks Prod.fst Prod.snd game.deltas inOrder.deltas state
  have displayed := foldl_overlay_marks VisibleCharacter.id VisibleCharacter.displayFields
    game.visible inOrder.visible
  exact (changed.trans (displayed _)).trans (setGlobal_marks _ inOrder.global)

end StateTree

end VisualNovel
