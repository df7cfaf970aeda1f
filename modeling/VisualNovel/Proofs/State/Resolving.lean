import VisualNovel.Proofs.State.Contents
import VisualNovel.Proofs.State.Order
import VisualNovel.Proofs.State.Places

/-!
# Resolving a path

A path asks for a root of the state and for a route from there. It resolves by a way that is made
along the route, or leaves the state as it is (`InOrder.resolves`). What follows from a path that
resolves, for reading as well as for writing, follows from this way.
-/

namespace VisualNovel

/-- The place that a handle leads to. -/
def Handle.place (handle : Handle) : List Segment :=
  handle.container ++ [handle.key]

namespace StateTree

variable {state other : StateTree} {text : String} {root : Root} {first : Segment}
variable {route : List Segment} {entries opened : Dict Value}

/-- What a state holds at a place of a root. -/
def at? (state : StateTree) (root : Root) (place : List Segment) : Option Value :=
  (state.rootMap? root).bind fun entries => (Value.map entries).at? place

/-- Whether a path asks for derived data of a character in play. -/
def asksDerived (state : StateTree) (text : String) : Bool :=
  ((Path.parse? text).bind state.root?).any fun asked => isDerived asked.1 asked.2.1

/-- A path to what is authored: its root, its route, and the map that it starts from. -/
structure Asks (state : StateTree) (text : String) (root : Root) (first : Segment)
    (route : List Segment) (entries : Dict Value) : Prop where
  asked : (Path.parse? text).bind state.root? = some (root, first, route)
  authored : isDerived root first = false
  present : state.rootMap? root = some entries

/-- Whether a way is made for a path to the place of a handle, with the map at its root then. -/
def Paves (state : StateTree) (text : String) (opened : Dict Value) (handle : Handle) : Prop :=
  ∃ first route entries, state.Asks text handle.root first route entries ∧
    (Value.map entries).openRoute (splitLast first route).2 (splitLast first route).1 =
      (.map opened, some (handle.container, handle.key))

theorem splitLast_eq (first : Segment) (route : List Segment) :
    (splitLast first route).1 ++ [(splitLast first route).2] = first :: route := by
  induction route generalizing first with
  | nil => rfl
  | cons second route ih => exact congrArg (first :: ·) (ih second)

/-- What a way makes of a map is a map. -/
theorem exists_opened (last : Segment) (route : List Segment) (entries : Dict Value) :
    ∃ opened place, (Value.map entries).openRoute last route = (.map opened, place) := by
  have opens := Value.openRoute_opened last route (.map entries)
  generalize (Value.map entries).openRoute last route = outcome at opens
  obtain ⟨value, place⟩ := outcome
  cases value with
  | map opened => exact ⟨opened, place, rfl⟩
  | _ => cases opens

/-- A path to what is authored resolves by the way along its route. -/
theorem Asks.resolve_eq (asks : state.Asks text root first route entries)
    {place : Option (List Segment × Segment)}
    (opens : (Value.map entries).openRoute (splitLast first route).2 (splitLast first route).1 =
      (.map opened, place)) :
    state.resolve text =
      (state.putRootMap root opened, place.map fun reached => ⟨root, reached.1, reached.2⟩) := by
  simp only [resolve]
  rw [asks.asked]
  simp only [asks.authored, asks.present, opens]
  rfl

/-- A path to nothing that is authored does not resolve. -/
theorem resolve_unasked (nothing : ∀ root first route entries,
    ¬ state.Asks text root first route entries) : state.resolve text = (state, none) := by
  simp only [resolve]
  split
  · rfl
  · rename_i root first route asked
    split
    · rfl
    · rename_i authored
      split
      · rfl
      · rename_i entries present
        exact absurd ⟨asked, Bool.eq_false_iff.2 authored, present⟩
          (nothing root first route entries)

/-- A path resolves by the way that is made for it, or leaves the state as it is. -/
theorem InOrder.resolves (inOrder : state.InOrder) (text : String) :
    state.resolve text = (state, none) ∨ ∃ opened handle,
      state.Paves text opened handle ∧
        state.resolve text = (state.putRootMap handle.root opened, some handle) := by
  by_cases asked : ∃ root first route entries, state.Asks text root first route entries
  · obtain ⟨root, first, route, entries, asks⟩ := asked
    obtain ⟨opened, place, opens⟩ :=
      exists_opened (splitLast first route).2 (splitLast first route).1 entries
    have resolved := asks.resolve_eq opens
    cases place with
    | some place =>
        right
        exact ⟨opened, ⟨root, place.1, place.2⟩, ⟨first, route, entries, asks, opens⟩, resolved⟩
    | none =>
        left
        have way := Value.openRoute_way (splitLast first route).2 (splitLast first route).1
          (.map entries)
        rw [opens] at way
        cases way.lost (inOrder.rootMap? asks.present) rfl
        rw [resolved, inOrder.putRootMap_same asks.present]
        rfl
  · left
    apply resolve_unasked
    intro root first route entries asks
    exact asked ⟨root, first, route, entries, asks⟩

/-- The way that is made for a path leads to the place of its handle. -/
theorem Paves.way {handle : Handle} (paves : state.Paves text opened handle) :
    ∃ first route entries, state.Asks text handle.root first route entries ∧
      Value.Way (splitLast first route).2 (splitLast first route).1 (.map entries)
        (.map opened, some (handle.container, handle.key)) := by
  obtain ⟨first, route, entries, asks, opens⟩ := paves
  refine ⟨first, route, entries, asks, ?_⟩
  rw [← opens]
  exact Value.openRoute_way _ _ _

/-! ## Maps at a root -/

@[simp] theorem revision_putRootMap (state : StateTree) (root : Root) (entries : Dict Value) :
    (state.putRootMap root entries).revision = state.revision := by
  cases root with
  | global => rfl
  | character id =>
      simp only [StateTree.putRootMap]
      split <;> rfl

@[simp] theorem revision_reindexRoot (state : StateTree) (root : Root) :
    (state.reindexRoot root).revision = state.revision := by
  cases root with
  | global => rfl
  | character id =>
      simp only [StateTree.reindexRoot]
      split <;> rfl

/-- A map that is put at a root is found there. -/
theorem rootMap?_putRootMap {root : Root} {entries : Dict Value}
    (found : state.rootMap? root = some entries) (changed : Dict Value) :
    (state.putRootMap root changed).rootMap? root = some changed := by
  cases root with
  | global => rfl
  | character id =>
      obtain ⟨character, present, -⟩ := Option.map_eq_some_iff.1 found
      simp only [StateTree.putRootMap]
      rw [present]
      simp only [StateTree.rootMap?, character?]
      rw [Dict.get?_insert, if_pos rfl]
      rfl

theorem putRootMap_putRootMap (state : StateTree) (root : Root) (first second : Dict Value) :
    (state.putRootMap root first).putRootMap root second = state.putRootMap root second := by
  cases root with
  | global => rfl
  | character id =>
      simp only [putRootMap]
      cases found : state.character? id with
      | none =>
          dsimp only
          rw [found]
      | some character =>
          dsimp only
          simp only [character?]
          rw [Dict.get?_insert, if_pos rfl]
          dsimp only
          rw [Dict.insert_insert]

/-- States with the same characters in play understand the same paths. -/
theorem root?_congr (same : ∀ id, (other.character? id).isSome = (state.character? id).isSome) :
    other.root? = state.root? := by
  funext path
  have contains : ∀ id, Dict.contains other.characters id = Dict.contains state.characters id :=
    same
  simp only [root?, contains]

end StateTree

end VisualNovel
