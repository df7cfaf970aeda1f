import VisualNovel.Proofs.State.Writing

/-!
# What moves the revision

A request to a state that changes its contents moves the revision by one, with a single exception: a
path that is only resolved makes the maps on its way without a mark. These are made where the
container that the path leads into is not there yet, and nowhere else (`StateTree.serve_revision`).
-/

namespace VisualNovel

namespace Value

variable {value : Value} {last : Segment} {route : List Segment}
variable {outcome : Value × Option (List Segment × Segment)} {concrete : List Segment}
variable {key : Segment}

/-- A container stays one when a way is made through it, and so does what is none. -/
theorem Way.isContainer (way : Way last route value outcome) :
    outcome.1.isContainer = value.isContainer := by
  cases way with
  | ended => rfl
  | closed => rfl
  | entry way same => rfl
  | item selected present way => rfl

variable {entries : Dict Value} {name : String}

/-- An entry is passed through itself, unless an empty map takes the place of null. -/
theorem passage_of_get? {child : Value} (found : Dict.get? entries name = some child)
    (alike : child.isContainer = (passage entries name).isContainer) :
    passage entries name = child := by
  simp only [passage] at alike ⊢
  rw [found] at alike ⊢
  cases child with
  | null => cases alike
  | _ => rfl

theorem at?_key {place : List Segment}
    (present : Dict.get? entries name = some (passage entries name)) :
    (Value.map entries).at? (.key name :: place) = (passage entries name).at? place := by
  rw [at?_cons]
  simp only [part?]
  rw [present, Option.bind_some]

/-- Where a passage is made anew, there is no container behind its key. -/
theorem at?_key_vacant
    (vacant : Dict.get? entries name ≠ some (passage entries name)) (place : List Segment) :
    ((Value.map entries).at? (.key name :: place)).any isContainer = false := by
  rw [at?_cons]
  simp only [part?]
  cases found : Dict.get? entries name with
  | none => rfl
  | some child =>
      rw [Option.bind_some]
      cases child with
      | null =>
          cases place with
          | nil => rfl
          | cons segment place => rw [at?_of_scalar rfl (List.cons_ne_nil segment place)]; rfl
      | _ =>
          simp only [passage, found] at vacant
          exact absurd rfl vacant

/-- A way that leads somewhere changes nothing exactly where the container at its end is there
already. -/
theorem Way.unchanged_iff (way : Way last route value outcome) (ordered : value.Ordered)
    (found : outcome.2 = some (concrete, key)) :
    outcome.1 = value ↔ (value.at? concrete).any Value.isContainer = true := by
  induction way generalizing concrete with
  | @ended value =>
      obtain ⟨final, known, same⟩ := Option.map_eq_some_iff.1 found
      cases same
      rw [at?_nil, Option.any_some]
      constructor
      · intro _
        cases value with
        | map entries => rfl
        | list items => rfl
        | _ => cases known
      · intro _
        rfl
  | closed => cases found
  | @entry segment route entries inner way same ih =>
      obtain ⟨further, known, place⟩ := Option.map_eq_some_iff.1 found
      cases place
      constructor
      · intro unchanged
        have held : Dict.get? entries segment.mapKey = some inner.1 := by
          rw [← Value.map.inj unchanged, Dict.get?_insert, if_pos rfl]
        have passed := passage_of_get? held way.isContainer
        rw [← passed] at held
        rw [at?_key held]
        exact (ih (ordered.passage segment.mapKey) known).1 passed.symm
      · intro container
        by_cases present :
            Dict.get? entries segment.mapKey = some (passage entries segment.mapKey)
        · rw [at?_key present] at container
          rw [(ih (ordered.passage segment.mapKey) known).2 container,
            ordered.sorted.insert_same present]
        · rw [at?_key_vacant present] at container
          cases container
  | @item segment route items position child inner selected present way ih =>
      obtain ⟨further, known, place⟩ := Option.map_eq_some_iff.1 found
      cases place
      obtain ⟨within, same⟩ := List.getElem?_eq_some_iff.1 present
      rw [at?_cons]
      simp only [part?]
      rw [present, Option.bind_some, ← ih (ordered.item present) known]
      constructor
      · intro unchanged
        have held := congrArg (·[position]?) (Value.list.inj unchanged)
        simp only [List.getElem?_set_self within] at held
        rw [present] at held
        exact Option.some.inj held
      · intro unchanged
        rw [unchanged, ← same, List.set_getElem_self]

end Value

/-- A request to a state, with all that may be given for it. A handle may be of any age, and a
character may be changed into any other. -/
inductive StateRequest where
  /-- Reads a path. -/
  | read (text : String)
  /-- Resolves a path for writing. -/
  | resolve (text : String)
  /-- Reads through a handle. -/
  | get (handle : Handle)
  /-- Stores through a handle. -/
  | set (handle : Handle) (value : Value)
  /-- Resolves a path and stores at its place. -/
  | write (text : String) (value : Value)
  /-- Applies an assignment. -/
  | assign (expression : String)
  /-- Adds or replaces a character. -/
  | insertCharacter (character : Character)
  /-- Changes a character in play. -/
  | updateCharacter (id : String) (update : Character → Character)
  /-- Replaces the global map. -/
  | setGlobal (global : Dict Value)
  /-- Drops all characters and global values. -/
  | clear
  /-- Marks the state as changed. -/
  | touch

namespace StateTree

variable {state after : StateTree} {text : String} {handle : Handle} {opened : Dict Value}

/-- The state that a request leaves behind. -/
def serve (state : StateTree) : StateRequest → StateTree
  | .read _ | .get _ => state
  | .resolve text => (state.resolve text).1
  | .set handle value => (state.set handle value).1
  | .write text value => (state.write text value).1
  | .assign expression => state.assigned expression
  | .insertCharacter character => state.insertCharacter character
  | .updateCharacter id update => (state.updateCharacter? id update).getD state
  | .setGlobal global => state.setGlobal global
  | .clear => state.clear
  | .touch => state.touch

/-- A request that leaves the state as it is, or is counted. -/
def Counts (before after : StateTree) : Prop :=
  after = before ∨ after.revision = before.revision + 1

theorem revision_succ_ne (revision : UInt64) : revision + 1 ≠ revision := by
  intro same
  have absurd : (1 : UInt64) = 0 := UInt64.add_eq_left.1 same
  cases absurd

/-- A request that leaves the state or is counted changes no contents without a mark. -/
theorem Counts.contents (counts : Counts state after) (same : after.revision = state.revision) :
    state.SameContents after := by
  cases counts with
  | inl unchanged =>
      rw [unchanged]
      exact .refl state
  | inr moved =>
      rw [moved] at same
      exact absurd same (revision_succ_ne state.revision)

theorem set_counts (state : StateTree) (handle : Handle) (value : Value) :
    Counts state (state.set handle value).1 := by
  simp only [set, set?]
  cases state.rootMap? handle.root with
  | none => exact .inl rfl
  | some entries =>
      simp only [Option.bind_eq_bind, Option.bind_some]
      cases Value.storeAt? handle.key value handle.container (.map entries) with
      | none => exact .inl rfl
      | some stored =>
          simp only [Option.bind_some]
          cases stored.map? with
          | none => exact .inl rfl
          | some grown => exact .inr (revision_withStored state handle grown)

theorem InOrder.write_counts (inOrder : state.InOrder) (text : String) (value : Value) :
    Counts state (state.write text value).1 := by
  rcases inOrder.write_cases text value with lost | ⟨handle, after, -, writes, written, -⟩
  · rw [lost]
    exact .inl rfl
  · rw [writes]
    exact .inr written.revision

/-- Every request but one to resolve a path leaves the state or is counted. -/
theorem InOrder.serve_counts (inOrder : state.InOrder) (request : StateRequest)
    (other : ∀ text, request ≠ .resolve text) : Counts state (state.serve request) := by
  cases request with
  | read text => exact .inl rfl
  | get handle => exact .inl rfl
  | resolve text => exact absurd rfl (other text)
  | set handle value => exact set_counts state handle value
  | write text value => exact inOrder.write_counts text value
  | assign expression =>
      simp only [serve, assigned]
      rcases state.assign_eq expression with none | ⟨target, value, writes⟩
      · rw [none]
        exact .inl rfl
      · rw [writes]
        exact inOrder.write_counts target value
  | updateCharacter id update =>
      simp only [serve, updateCharacter?]
      cases state.character? id with
      | none => exact .inl rfl
      | some character => exact .inr rfl
  | _ => exact .inr rfl

/-- Whether a path leads into a container that is made for it. -/
def builds (state : StateTree) (text : String) : Bool :=
  (state.resolve text).2.any fun handle =>
    !(state.at? handle.root handle.container).any Value.isContainer

/-- Where the map at a root is put anew for a path, the contents stay if it is the same map. -/
theorem InOrder.sameContents_putRootMap (inOrder : state.InOrder) {root : Root}
    {entries : Dict Value} (present : state.rootMap? root = some entries) :
    state.SameContents (state.putRootMap root opened) ↔ opened = entries := by
  constructor
  · intro same
    have held := rootMap?_putRootMap present opened
    rw [same.eq, rootMap?_revision, present] at held
    exact (Option.some.inj held).symm
  · intro same
    rw [same, inOrder.putRootMap_same present]
    exact .refl state

/-- Resolving a path changes the contents of the state exactly where it builds a container. -/
theorem InOrder.resolve_changes_iff (inOrder : state.InOrder) (text : String) :
    ¬ state.SameContents (state.resolve text).1 ↔ state.builds text = true := by
  rcases inOrder.resolves text with lost | ⟨opened, handle, paves, leads⟩
  · simp only [builds]
    rw [lost]
    constructor
    · intro changed
      exact absurd (.refl state) changed
    · intro built
      cases built
  · obtain ⟨first, route, entries, asks, way⟩ := paves.way
    have unchanged := way.unchanged_iff (inOrder.rootMap? asks.present) rfl
    simp only [builds, at?]
    rw [leads]
    dsimp only
    rw [inOrder.sameContents_putRootMap asks.present, Option.any_some, asks.present,
      Option.bind_some, Bool.not_eq_true', ← Bool.not_eq_true, ← unchanged, Value.map.injEq]

theorem InOrder.resolve_revision_eq (inOrder : state.InOrder) (text : String) :
    (state.resolve text).1.revision = state.revision := by
  rcases inOrder.resolves text with lost | ⟨opened, handle, -, leads⟩
  · rw [lost]
  · rw [leads]
    exact revision_putRootMap state handle.root opened

/-- A request leaves the revision or moves it by one. It changes the contents of the state behind
the same revision exactly when it resolves a path and builds a container for it. -/
theorem serve_revision (inOrder : state.InOrder) (request : StateRequest) :
    ((state.serve request).revision = state.revision ∨
        (state.serve request).revision = state.revision + 1) ∧
      ((¬ state.SameContents (state.serve request) ∧
          (state.serve request).revision = state.revision) ↔
        ∃ text, request = .resolve text ∧ state.builds text = true) := by
  by_cases resolves : ∃ text, request = .resolve text
  · obtain ⟨text, rfl⟩ := resolves
    have still : (state.serve (.resolve text)).revision = state.revision :=
      inOrder.resolve_revision_eq text
    refine ⟨.inl still, ?_, ?_⟩
    · intro ⟨changed, _⟩
      exact ⟨text, rfl, (inOrder.resolve_changes_iff text).1 changed⟩
    · intro ⟨other, same, built⟩
      cases same
      exact ⟨(inOrder.resolve_changes_iff text).2 built, still⟩
  · have counts := inOrder.serve_counts request fun text same => resolves ⟨text, same⟩
    refine ⟨?_, ?_, ?_⟩
    · cases counts with
      | inl unchanged => exact .inl (congrArg revision unchanged)
      | inr moved => exact .inr moved
    · intro ⟨changed, same⟩
      exact absurd (counts.contents same) changed
    · intro ⟨text, same, _⟩
      exact absurd ⟨text, same⟩ resolves

theorem serve_revision_cellar :
    cellar.InOrder ∧ ¬ cellar.SameContents (cellar.serve (.resolve "global.door.lock")) ∧
      (cellar.serve (.resolve "global.door.lock")).revision = cellar.revision := by
  obtain ⟨-, unmarked⟩ := serve_revision cellar_inOrder (.resolve "global.door.lock")
  have built : cellar.builds "global.door.lock" = true := by decide +kernel
  exact ⟨cellar_inOrder, unmarked.2 ⟨"global.door.lock", rfl, built⟩⟩

end StateTree

end VisualNovel
