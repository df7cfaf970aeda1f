import VisualNovel.Proofs.Dict
import VisualNovel.State.Assignment

/-!
# Values with maps in order

Every map inside a value of the game keeps its keys in ascending order. Looking up, making a way and
storing keep this, at whatever depth they act.
-/

namespace VisualNovel.Value

/-- Every map in the value has its keys in ascending order. -/
inductive Ordered : Value → Prop where
  | null : Ordered .null
  | bool (value : Bool) : Ordered (.bool value)
  | int (value : Int64) : Ordered (.int value)
  | float (value : Float) : Ordered (.float value)
  | text (value : String) : Ordered (.text value)
  | list {items : List Value} : (∀ item ∈ items, Ordered item) → Ordered (.list items)
  | map {entries : Dict Value} :
      Dict.Sorted entries → (∀ entry ∈ entries, Ordered entry.2) → Ordered (.map entries)

variable {entries : Dict Value} {items : List Value} {value child : Value} {key : String}
variable {position : Nat}

theorem Ordered.sorted (ordered : (Value.map entries).Ordered) : Dict.Sorted entries := by
  cases ordered with
  | map sorted _ => exact sorted

theorem Ordered.entry (ordered : (Value.map entries).Ordered)
    (found : Dict.get? entries key = some child) : child.Ordered := by
  cases ordered with
  | map _ each => exact each _ (Dict.mem_of_get? found)

theorem Ordered.insert (ordered : (Value.map entries).Ordered) (key : String)
    (stored : value.Ordered) : (Value.map (Dict.insert key value entries)).Ordered := by
  cases ordered with
  | map sorted each =>
      refine .map (sorted.insert key value) ?_
      intro entry member
      rcases Dict.mem_insert member with rfl | old
      · exact stored
      · exact each entry old

theorem Ordered.item (ordered : (Value.list items).Ordered)
    (found : items[position]? = some child) : child.Ordered := by
  cases ordered with
  | list each => exact each child (List.mem_of_getElem? found)

theorem Ordered.set (ordered : (Value.list items).Ordered) (position : Nat)
    (stored : value.Ordered) : (Value.list (items.set position value)).Ordered := by
  cases ordered with
  | list each =>
      refine .list ?_
      intro item member
      rcases List.mem_or_eq_of_mem_set member with old | rfl
      · exact each item old
      · exact stored

theorem Ordered.push (ordered : (Value.list items).Ordered) (stored : value.Ordered) :
    (Value.list (items ++ [value])).Ordered := by
  cases ordered with
  | list each =>
      refine .list ?_
      intro item member
      rcases List.mem_append.1 member with old | new
      · exact each item old
      · rw [List.mem_singleton.1 new]
        exact stored

theorem emptyMap_ordered : emptyMap.Ordered :=
  .map List.Pairwise.nil fun _ member => by cases member

theorem union_ordered {entries : Dict Value} (ordered : (Value.map entries).Ordered)
    {additions : List (String × Value)} (each : ∀ field ∈ additions, field.2.Ordered) :
    (Value.map (Dict.union entries additions)).Ordered := by
  simp only [Dict.union]
  induction additions generalizing entries with
  | nil => exact ordered
  | cons field additions ih =>
      have first := ordered.insert field.1 (each field (List.mem_cons_self ..))
      exact ih first fun other member => each other (List.mem_cons_of_mem field member)

theorem ofFloat_ordered (number : Float) : (ofFloat number).Ordered := by
  simp only [ofFloat]
  split
  · exact .int _
  · exact .float _

/-! ## Paths -/

theorem Ordered.child? (ordered : value.Ordered) {segment : Segment}
    (found : value.child? segment = some child) : child.Ordered := by
  cases value with
  | map entries => exact ordered.entry found
  | list items =>
      obtain ⟨position, -, item⟩ := Option.bind_eq_some_iff.1 found
      exact ordered.item item
  | _ => cases found

theorem Ordered.lookup? (ordered : value.Ordered) {route : List Segment}
    (found : value.lookup? route = some child) : child.Ordered := by
  induction route generalizing value with
  | nil =>
      cases found
      exact ordered
  | cons segment route ih =>
      rw [lookup?_cons] at found
      obtain ⟨next, step, rest⟩ := Option.bind_eq_some_iff.1 found
      exact ih (ordered.child? step) rest

theorem Ordered.passage (ordered : (Value.map entries).Ordered) (key : String) :
    (passage entries key).Ordered := by
  simp only [Value.passage]
  split
  · exact emptyMap_ordered
  · exact emptyMap_ordered
  · rename_i found
    exact ordered.entry found

/-! ## Making a way -/

/-- A value and what becomes of it when a way is made through it: missing and absent entries on the
way become maps. -/
inductive Opened : Value → Value → Prop where
  | same {value : Value} : Opened value value
  | entry {entries : Dict Value} {key : String} {child : Value} :
      (passage entries key).isContainer = true → Opened (passage entries key) child →
      Opened (.map entries) (.map (Dict.insert key child entries))
  | item {items : List Value} {position : Nat} {child opened : Value} :
      items[position]? = some child → Opened child opened →
      Opened (.list items) (.list (items.set position opened))

theorem openRoute_opened (last : Segment) (route : List Segment) (value : Value) :
    Opened value (value.openRoute last route).1 := by
  induction route generalizing value with
  | nil => exact .same
  | cons segment route ih =>
      unfold Value.openRoute
      split
      · rename_i entries
        dsimp only
        split
        · rename_i container
          exact .entry container (ih (Value.passage entries segment.mapKey))
        · exact .same
      · rename_i items
        split
        · exact .same
        · rename_i position selected
          split
          · exact .same
          · rename_i child found
            split
            · exact .item found (ih child)
            · exact .same
      · exact .same

/-- Making a way keeps maps in order. -/
theorem Opened.ordered {opened : Value} (opens : Opened value opened) (ordered : value.Ordered) :
    opened.Ordered := by
  induction opens with
  | same => exact ordered
  | entry container opens ih => exact ordered.insert _ (ih (ordered.passage _))
  | item found opens ih => exact ordered.set _ (ih (ordered.item found))

/-! ## Storing -/

theorem Ordered.store? (ordered : value.Ordered) {key : Segment} {stored after : Value}
    (new : stored.Ordered) (succeeds : value.store? key stored = some after) : after.Ordered := by
  simp only [Value.store?] at succeeds
  split at succeeds
  · cases succeeds
    exact ordered.insert _ new
  · split at succeeds
    · cases succeeds
      exact ordered.set _ new
    · split at succeeds
      · cases succeeds
        exact ordered.push new
      · cases succeeds
  · cases succeeds

/-- Storing an ordered value keeps maps in order. -/
theorem Ordered.storeAt? (ordered : value.Ordered) {key : Segment} {stored after : Value}
    {route : List Segment} (new : stored.Ordered)
    (succeeds : storeAt? key stored route value = some after) : after.Ordered := by
  induction route generalizing value after with
  | nil => exact ordered.store? new succeeds
  | cons segment route ih =>
      unfold Value.storeAt? at succeeds
      split at succeeds
      · rename_i absurd
        cases absurd
      · rename_i same
        cases same
        simp only [Option.bind_eq_bind, Option.bind_eq_some_iff, Option.some.injEq] at succeeds
        obtain ⟨child, found, inner, succeeds, rfl⟩ := succeeds
        exact ordered.insert _ (ih (ordered.entry found) succeeds)
      · rename_i same
        cases same
        simp only [Option.bind_eq_bind, Option.bind_eq_some_iff, Option.some.injEq] at succeeds
        obtain ⟨child, found, inner, succeeds, rfl⟩ := succeeds
        exact ordered.set _ (ih (ordered.item found) succeeds)
      · cases succeeds

/-- Storing in a map changes the entry of the first key on the way. -/
theorem storeAt?_map {key : Segment} {stored after : Value} {route : List Segment}
    {entries : Dict Value} (succeeds : storeAt? key stored route (.map entries) = some after) :
    ∃ name child, after = .map (Dict.insert name child entries) ∧
      (route ++ [key]).contains (.key name) = true := by
  cases route with
  | nil =>
      simp only [Value.storeAt?, Value.store?] at succeeds
      split at succeeds
      · rename_i same
        cases same
        cases succeeds
        exact ⟨_, _, rfl, by simp⟩
      · rename_i absurd
        cases absurd
      · cases succeeds
  | cons segment route =>
      unfold Value.storeAt? at succeeds
      split at succeeds
      · rename_i absurd
        cases absurd
      · rename_i same first
        cases same
        cases first
        simp only [Option.bind_eq_bind, Option.bind_eq_some_iff, Option.some.injEq] at succeeds
        obtain ⟨child, -, inner, -, rfl⟩ := succeeds
        exact ⟨_, _, rfl, by simp⟩
      · rename_i absurd
        cases absurd
      · cases succeeds

end VisualNovel.Value
