import VisualNovel.Proofs.Interpreter.World
import VisualNovel.Proofs.State.Wearing

/-!
# Characters under their identifiers

The characters of a state are listed in ascending order, each under its own identifier. Whatever is
done to a state keeps them so, and therefore they are listed so in every story.
-/

namespace VisualNovel

/-- The characters of a state are listed in order and under their own identifiers. -/
structure StateTree.Listed (state : StateTree) : Prop where
  sorted : Dict.Sorted state.characters
  named : ∀ {id character}, state.character? id = some character → character.id = id

/-- A change of states that leaves characters under their identifiers. -/
def KeepsListed (change : StateTree → StateTree) : Prop :=
  ∀ {state : StateTree}, state.Listed → (change state).Listed

namespace StateTree

variable {state after : StateTree} {id : String} {character : Character}

theorem empty_listed : empty.Listed := by
  constructor
  · exact List.Pairwise.nil
  · intro id character absent
    cases absent

/-- What has the same characters lists them the same way. -/
theorem Listed.congr (listed : state.Listed) (same : after.characters = state.characters) :
    after.Listed := by
  constructor
  · rw [same]
    exact listed.sorted
  · intro id character found
    apply listed.named
    simp only [character?] at found ⊢
    rw [← same]
    exact found

theorem Listed.replace (listed : state.Listed) (named : character.id = id) :
    Listed { state with characters := Dict.insert id character state.characters } := by
  constructor
  · exact listed.sorted.insert id character
  · intro other present found
    rw [character?_replaced] at found
    split at found
    · rename_i same
      cases found
      exact named.trans same
    · exact listed.named found

theorem Listed.putRootMap (listed : state.Listed) (root : Root) (entries : Dict Value) :
    (state.putRootMap root entries).Listed := by
  cases root with
  | global => exact listed.congr rfl
  | character id =>
      simp only [StateTree.putRootMap]
      cases found : state.character? id with
      | none => exact listed
      | some character =>
          have named := listed.named found
          exact listed.replace named

theorem Listed.reindexRoot (listed : state.Listed) (root : Root) :
    (state.reindexRoot root).Listed := by
  cases root with
  | global => exact listed
  | character id =>
      simp only [StateTree.reindexRoot]
      cases found : state.character? id with
      | none => exact listed
      | some character =>
          have named := listed.named found
          exact listed.replace named

theorem Listed.resolve (listed : state.Listed) (path : String) :
    (state.resolve path).1.Listed := by
  simp only [StateTree.resolve]
  split
  · exact listed
  · split
    · exact listed
    · split
      · exact listed
      · dsimp only
        generalize Value.openRoute _ _ _ = opened
        cases opened.1.map? with
        | none => exact listed
        | some entries => exact listed.putRootMap _ entries

theorem Listed.set (listed : state.Listed) (handle : Handle) (value : Value) :
    (state.set handle value).1.Listed := by
  simp only [StateTree.set]
  split
  · rename_i stored succeeds
    simp only [StateTree.set?, Option.bind_eq_bind, Option.bind_eq_some_iff,
      Option.some.injEq] at succeeds
    obtain ⟨entries, -, container, -, fields, -, rfl⟩ := succeeds
    have put := listed.putRootMap handle.root fields
    have touched : (state.putRootMap handle.root fields).touch.Listed := put.congr rfl
    split
    · exact touched.reindexRoot handle.root
    · exact touched
  · exact listed

theorem Listed.write (listed : state.Listed) (path : String) (value : Value) :
    (state.write path value).1.Listed := by
  have resolved := listed.resolve path
  simp only [StateTree.write]
  generalize state.resolve path = outcome at resolved ⊢
  obtain ⟨opened, place⟩ := outcome
  cases place with
  | none => exact resolved
  | some handle => exact resolved.set handle value

theorem Listed.assigned (listed : state.Listed) (expression : String) :
    (state.assigned expression).Listed := by
  simp only [StateTree.assigned, StateTree.assign]
  split
  · exact listed
  · rename_i assignment _
    have resolved := listed.resolve assignment.target
    generalize state.resolve assignment.target = outcome at resolved ⊢
    obtain ⟨opened, place⟩ := outcome
    cases place with
    | none => exact resolved
    | some handle => exact resolved.set handle _

theorem Listed.insertCharacter (listed : state.Listed) (character : Character) :
    (state.insertCharacter character).Listed := by
  have touched : state.touch.Listed := listed.congr rfl
  exact touched.replace rfl

/-- Every operation on a state leaves characters under their identifiers. -/
theorem Listed.perform (listed : state.Listed) (operation : StateOperation) :
    (state.perform operation).Listed := by
  cases operation with
  | insertCharacter id data => exact listed.insertCharacter _
  | write path value => exact listed.write path value
  | resolve path => exact listed.resolve path
  | set handle value => exact listed.set handle value
  | assign expression => exact listed.assigned expression
  | replaceFields id fields =>
      simp only [StateTree.perform, updateCharacter?]
      cases found : state.character? id with
      | none => exact listed
      | some character =>
          have touched : state.touch.Listed := listed.congr rfl
          have named := listed.named found
          exact touched.replace named
  | setGlobal global => exact listed.congr rfl
  | clear => exact empty_listed.congr rfl

end StateTree

theorem StateEdit.keepsListed {change : StateTree → StateTree} (edit : StateEdit change) :
    KeepsListed change := by
  intro state listed
  cases edit with
  | write path ordered => exact listed.write path _
  | assign expression => exact listed.assigned expression
  | setGlobal ordered => exact listed.congr rfl
  | touch => exact listed.congr rfl

/-- The operations of a host that changes the state, if at all, by an operation on it. -/
def Operation.EditsByOperation : Operation → Prop
  | .edit change => ∃ operation, change = fun state => state.perform operation
  | _ => True

namespace Interpreter

variable {content : Content} {settings : StorySettings} {interpreter : Interpreter}

theorem loadEach_listed (listed : interpreter.state.Listed) (ids : List String) :
    (loadEach ids interpreter).2.state.Listed := by
  induction ids generalizing interpreter with
  | nil => exact listed
  | cons id ids ih =>
      simp only [loadEach]
      split
      · rename_i data delivered
        have inserted := listed.insertCharacter (.ofRecord id data)
        exact ih inserted
      · exact ih listed
      · exact listed

theorem loadCharacters_listed (listed : interpreter.state.Listed) (ids : List String) :
    (interpreter.loadCharacters ids).2.state.Listed := by
  have loaded := loadEach_listed listed ids
  simp only [loadCharacters]
  split <;> rename_i same <;> rw [same] at loaded <;> exact loaded

theorem perform_listed (listed : interpreter.state.Listed) {operation : Operation}
    (edits : operation.EditsByOperation) : (operation.perform interpreter).state.Listed := by
  have each : ∀ {before after : World}, before.state.Listed →
      World.Change KeepsListed before after → after.state.Listed := by
    intro before after kept change
    cases change with
    | edited allowed => exact allowed kept
    | _ => exact kept
  have evolved : operation.Within KeepsListed → (operation.perform interpreter).state.Listed := by
    intro within
    have evolves := perform_evolves StateEdit.keepsListed interpreter operation within
    exact @World.Changes.keeps _ _ _ (fun world => world.state.Listed) each evolves listed
  cases operation with
  | loadCharacters ids => exact loadCharacters_listed listed ids
  | edit change =>
      obtain ⟨operation, rfl⟩ := edits
      exact listed.perform operation
  | _ => exact evolved trivial

/-- In every story the characters are listed under their identifiers. -/
theorem performAll_listed {operations : List Operation}
    (edits : ∀ operation ∈ operations, operation.EditsByOperation) :
    (Operation.performAll (.new content settings) operations).state.Listed := by
  have kept : ∀ {before : Interpreter}, before.state.Listed →
      (Operation.performAll before operations).state.Listed := by
    induction operations with
    | nil => exact id
    | cons operation operations ih =>
        intro before listed
        apply ih fun later member => edits later (List.mem_cons_of_mem operation member)
        exact perform_listed listed (edits operation (List.mem_cons_self ..))
  exact kept StateTree.empty_listed

end Interpreter

end VisualNovel
