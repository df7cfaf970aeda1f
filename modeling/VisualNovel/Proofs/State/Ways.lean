import VisualNovel.Proofs.State.Ordered

/-!
# Ways that lead somewhere

A way through a value makes the maps that it misses. If it leads to a place, a value can be stored
there; if it leads nowhere, it made no map.
-/

namespace VisualNovel.Value

variable {value : Value} {last : Segment} {route : List Segment}

/-- How a way is made, with the value behind it and the place it leads to. -/
inductive Way (last : Segment) :
    List Segment → Value → Value × Option (List Segment × Segment) → Prop where
  | ended {value : Value} :
      Way last [] value (value, (value.concreteKey? last).map ([], ·))
  | closed {segment : Segment} {route : List Segment} {value : Value} :
      Way last (segment :: route) value (value, none)
  | entry {segment : Segment} {route : List Segment} {entries : Dict Value}
      {inner : Value × Option (List Segment × Segment)} :
      Way last route (passage entries segment.mapKey) inner →
      inner = (passage entries segment.mapKey).openRoute last route →
      Way last (segment :: route) (.map entries)
        (.map (Dict.insert segment.mapKey inner.1 entries),
          inner.2.map fun place => (.key segment.mapKey :: place.1, place.2))
  | item {segment : Segment} {route : List Segment} {items : List Value} {position : Nat}
      {child : Value} {inner : Value × Option (List Segment × Segment)} :
      position? items segment = some position → items[position]? = some child →
      Way last route child inner →
      Way last (segment :: route) (.list items)
        (.list (items.set position inner.1),
          inner.2.map fun place => (.index position :: place.1, place.2))

theorem openRoute_way (last : Segment) (route : List Segment) (value : Value) :
    Way last route value (value.openRoute last route) := by
  induction route generalizing value with
  | nil => exact .ended
  | cons segment route ih =>
      unfold openRoute
      split
      · rename_i entries
        dsimp only
        split
        · exact .entry (ih (passage entries segment.mapKey)) rfl
        · exact .closed
      · rename_i items
        split
        · exact .closed
        · rename_i position selected
          split
          · exact .closed
          · rename_i child found
            split
            · exact .item selected found (ih child)
            · exact .closed
      · exact .closed

/-- Through the empty map every way leads somewhere. -/
theorem openRoute_emptyMap (last : Segment) (route : List Segment) :
    (emptyMap.openRoute last route).2.isSome = true := by
  induction route with
  | nil => rfl
  | cons segment route ih =>
      change ((emptyMap.openRoute last route).2.map _).isSome = true
      rw [Option.isSome_map]
      exact ih

/-- What is passed through without a way ahead is there already. -/
theorem passage_lost {entries : Dict Value} {key : String}
    (lost : ((passage entries key).openRoute last route).2 = none) :
    Dict.get? entries key = some (passage entries key) := by
  have leads := openRoute_emptyMap last route
  simp only [passage] at lost ⊢
  split at lost
  · rw [lost] at leads
    cases leads
  · rw [lost] at leads
    cases leads
  · rename_i child absent found
    rw [found]

/-- A way that leads nowhere changes nothing. -/
theorem Way.lost {outcome : Value × Option (List Segment × Segment)}
    (way : Way last route value outcome) (ordered : value.Ordered) (lost : outcome.2 = none) :
    outcome.1 = value := by
  induction way with
  | ended => rfl
  | closed => rfl
  | entry way same ih =>
      have inner := Option.map_eq_none_iff.1 lost
      rw [ih (ordered.passage _) inner]
      rw [same] at inner
      rw [ordered.sorted.insert_same (passage_lost inner)]
  | item selected found way ih =>
      obtain ⟨below, same⟩ := List.getElem?_eq_some_iff.1 found
      rw [ih (ordered.item found) (Option.map_eq_none_iff.1 lost), ← same, List.set_getElem_self]

theorem positionOf?_lt {items : List Value} {identifier : String} {position : Nat}
    (found : positionOf? items identifier = some position) : position < items.length := by
  simp only [positionOf?] at found
  exact (List.findIdx?_eq_some_iff_getElem.1 found).1

/-- At a concrete key of a container a value can be stored. -/
theorem concreteKey?_store? {container : Value} {segment key : Segment}
    (found : container.concreteKey? segment = some key) (value : Value) :
    (container.store? key value).isSome = true := by
  simp only [concreteKey?] at found
  split at found
  · cases found
    rfl
  · split at found
    · cases found
    · split at found
      · rename_i within
        cases found
        simp only [store?]
        split
        · rfl
        · rw [if_pos (by omega)]
          rfl
      · cases found
    · obtain ⟨position, selected, rfl⟩ := Option.map_eq_some_iff.1 found
      simp only [store?]
      rw [if_pos (positionOf?_lt selected)]
      rfl
  · cases found

/-- At the end of a way that leads somewhere a value can be stored. -/
theorem Way.storeAt? {outcome : Value × Option (List Segment × Segment)}
    (way : Way last route value outcome) {concrete : List Segment} {key : Segment}
    (found : outcome.2 = some (concrete, key)) (stored : Value) :
    (storeAt? key stored concrete outcome.1).isSome = true := by
  induction way generalizing concrete key with
  | ended =>
      obtain ⟨final, known, same⟩ := Option.map_eq_some_iff.1 found
      cases same
      exact concreteKey?_store? known stored
  | closed => cases found
  | entry way same ih =>
      obtain ⟨⟨inner, final⟩, known, place⟩ := Option.map_eq_some_iff.1 found
      cases place
      obtain ⟨after, succeeds⟩ := Option.isSome_iff_exists.1 (ih known)
      simp only [Value.storeAt?]
      rw [Dict.get?_insert, if_pos rfl]
      simp only [Option.bind_eq_bind, Option.bind_some]
      rw [succeeds]
      rfl
  | item selected present way ih =>
      obtain ⟨⟨inner, final⟩, known, place⟩ := Option.map_eq_some_iff.1 found
      cases place
      obtain ⟨after, succeeds⟩ := Option.isSome_iff_exists.1 (ih known)
      obtain ⟨below, -⟩ := List.getElem?_eq_some_iff.1 present
      simp only [Value.storeAt?]
      rw [List.getElem?_set_self below]
      simp only [Option.bind_eq_bind, Option.bind_some]
      rw [succeeds]
      rfl

end VisualNovel.Value
