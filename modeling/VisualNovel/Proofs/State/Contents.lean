import VisualNovel.State.Assignment
import VisualNovel.State.Placeholder

/-!
# The contents of a state

The revision of a state only tells that something changed. What is read, written and assigned
depends on the characters and the global map alone.
-/

namespace VisualNovel.StateTree

variable {state other : StateTree}

/-- Whether two states hold the same characters and the same global map. -/
def SameContents (state other : StateTree) : Prop :=
  other.characters = state.characters ∧ other.global = state.global

theorem SameContents.refl (state : StateTree) : SameContents state state :=
  ⟨rfl, rfl⟩

theorem SameContents.symm (same : SameContents state other) : SameContents other state :=
  ⟨same.1.symm, same.2.symm⟩

theorem SameContents.trans {third : StateTree} (first : SameContents state other)
    (second : SameContents other third) : SameContents state third :=
  ⟨second.1.trans first.1, second.2.trans first.2⟩

/-- States with the same contents differ in their revisions. -/
theorem SameContents.eq (same : SameContents state other) :
    other = { state with revision := other.revision } := by
  obtain ⟨characters, global, revision⟩ := other
  obtain ⟨rfl, rfl⟩ := same
  rfl

@[simp] theorem character?_revision (state : StateTree) (revision : UInt64) (id : String) :
    { state with revision }.character? id = state.character? id := rfl

@[simp] theorem root?_revision (state : StateTree) (revision : UInt64) (path : Path) :
    { state with revision }.root? path = state.root? path := rfl

@[simp] theorem rootMap?_revision (state : StateTree) (revision : UInt64) (root : Root) :
    { state with revision }.rootMap? root = state.rootMap? root := by
  cases root <;> rfl

@[simp] theorem read?_revision (state : StateTree) (revision : UInt64) (text : String) :
    { state with revision }.read? text = state.read? text := by
  simp only [read?]
  simp only [root?_revision, rootMap?_revision]
  rfl

@[simp] theorem get?_revision (state : StateTree) (revision : UInt64) (handle : Handle) :
    { state with revision }.get? handle = state.get? handle := by
  simp only [get?]
  rw [rootMap?_revision]

theorem putRootMap_revision (state : StateTree) (revision : UInt64) (root : Root)
    (entries : Dict Value) :
    { state with revision }.putRootMap root entries =
      { state.putRootMap root entries with revision } := by
  cases root with
  | global => rfl
  | character id =>
      simp only [putRootMap, character?_revision]
      cases state.character? id <;> rfl

theorem reindexRoot_revision (state : StateTree) (revision : UInt64) (root : Root) :
    { state with revision }.reindexRoot root = { state.reindexRoot root with revision } := by
  cases root with
  | global => rfl
  | character id =>
      simp only [reindexRoot, character?_revision]
      cases state.character? id <;> rfl

/-- Resolving a path neither looks at the revision nor changes it. -/
theorem resolve_revision (state : StateTree) (revision : UInt64) (text : String) :
    { state with revision }.resolve text =
      ({ (state.resolve text).1 with revision }, (state.resolve text).2) := by
  have roots : { state with revision }.root? = state.root? := rfl
  simp only [resolve]
  rw [roots]
  split
  · rfl
  · split
    · rfl
    · rw [rootMap?_revision]
      split
      · rfl
      · rename_i root first route derived entries found
        simp only
        generalize (Value.map entries).openRoute _ _ = opened
        cases opened.1.map? with
        | none => rfl
        | some grown => simp only [Option.map_some, Option.getD_some, putRootMap_revision]

theorem reindexRoot_contents (root : Root) (same : SameContents state other) :
    SameContents (state.reindexRoot root) (other.reindexRoot root) := by
  rw [same.eq, reindexRoot_revision state other.revision]
  exact ⟨rfl, rfl⟩

theorem putRootMap_contents (root : Root) (entries : Dict Value) (same : SameContents state other) :
    SameContents (state.putRootMap root entries) (other.putRootMap root entries) := by
  rw [same.eq, putRootMap_revision state other.revision]
  exact ⟨rfl, rfl⟩

/-- What is stored through a handle does not depend on the revision. -/
theorem set_contents (handle : Handle) (value : Value) (same : SameContents state other) :
    SameContents (state.set handle value).1 (other.set handle value).1 := by
  have roots : other.rootMap? handle.root = state.rootMap? handle.root := by
    rw [same.eq, rootMap?_revision]
  simp only [set, set?]
  rw [roots]
  cases state.rootMap? handle.root with
  | none => exact same
  | some entries =>
      simp only [Option.bind_eq_bind, Option.bind_some]
      cases Value.storeAt? handle.key value handle.container (.map entries) with
      | none => exact same
      | some stored =>
          simp only [Option.bind_some]
          cases stored.map? with
          | none => exact same
          | some grown =>
              have put := putRootMap_contents handle.root grown same
              simp only [Option.bind_some]
              split
              · exact reindexRoot_contents handle.root put
              · exact put

/-- Whether something can be stored through a handle does not depend on the revision. -/
theorem set_accepts (handle : Handle) (value : Value) (same : SameContents state other) :
    (other.set handle value).2 = (state.set handle value).2 := by
  have roots : other.rootMap? handle.root = state.rootMap? handle.root := by
    rw [same.eq, rootMap?_revision]
  simp only [set, set?]
  rw [roots]
  cases state.rootMap? handle.root with
  | none => rfl
  | some entries =>
      simp only [Option.bind_eq_bind, Option.bind_some]
      cases Value.storeAt? handle.key value handle.container (.map entries) with
      | none => rfl
      | some stored =>
          simp only [Option.bind_some]
          cases stored.map? <;> rfl

/-- A write leads from the same contents to the same contents, and it is possible in both states or
in neither. -/
theorem write_contents (path : String) (value : Value) (same : SameContents state other) :
    SameContents (state.write path value).1 (other.write path value).1 ∧
      (other.write path value).2 = (state.write path value).2 := by
  rw [same.eq]
  simp only [write, resolve_revision]
  generalize state.resolve path = resolved
  obtain ⟨grown, handle⟩ := resolved
  cases handle with
  | none => exact ⟨⟨rfl, rfl⟩, rfl⟩
  | some handle =>
      have revised : SameContents grown { grown with revision := other.revision } := ⟨rfl, rfl⟩
      exact ⟨set_contents handle value revised, set_accepts handle value revised⟩

/-- Assignments lead from the same contents to the same contents. -/
theorem assigned_contents (expression : String) (same : SameContents state other) :
    SameContents (state.assigned expression) (other.assigned expression) := by
  simp only [assigned, assign]
  cases Assignment.parse? expression with
  | none => exact same
  | some assignment =>
      rw [same.eq]
      simp only [resolve_revision]
      generalize state.resolve assignment.target = resolved
      obtain ⟨grown, handle⟩ := resolved
      cases handle with
      | none => exact ⟨rfl, rfl⟩
      | some handle =>
          simp only [get?_revision, Assignment.operandValue, read?_revision]
          exact set_contents handle _ ⟨rfl, rfl⟩

/-- A sequence of assignments leads from the same contents to the same contents. -/
theorem foldl_assigned_contents (expressions : List String) (same : SameContents state other) :
    SameContents (expressions.foldl assigned state) (expressions.foldl assigned other) := by
  induction expressions generalizing state other with
  | nil => exact same
  | cons expression expressions ih => exact ih (assigned_contents expression same)

/-- The placeholders of a text read the same in states with the same contents. -/
theorem substitute_contents (text : String) (same : SameContents state other) :
    other.substitute text = state.substitute text := by
  have renders : TextPiece.render other = TextPiece.render state := by
    funext piece
    rw [same.eq]
    cases piece <;> simp only [TextPiece.render, read?_revision]
  simp only [substitute]
  rw [renders]

end VisualNovel.StateTree
