import VisualNovel.Proofs.State.Writing

/-!
# Reading and resolving

A path is read along its segments, and resolved by a way that makes maps and turns selectors into
keys and positions. Where a path reads something, its way is there already and leads to what is read
(`Value.openRoute_of_lookup?`); and where the handle of a path reads something, nothing was made for
it, and the path reads the same (`Value.Way.lookup?`).
-/

namespace VisualNovel

namespace Value

variable {value child : Value} {last segment : Segment} {route : List Segment}
variable {outcome : Value × Option (List Segment × Segment)} {place : List Segment × Segment}

theorem isContainer_of_child? (found : value.child? segment = some child) :
    value.isContainer = true := by
  cases value with
  | list items => rfl
  | map entries => rfl
  | _ => cases found

/-- What a route leads through is a container. -/
theorem isContainer_of_lookup? (found : value.lookup? (route ++ [last]) = some child) :
    value.isContainer = true := by
  have through : ∃ first further, route ++ [last] = first :: further := by
    cases route with
    | nil => exact ⟨last, [], rfl⟩
    | cons first route => exact ⟨first, route ++ [last], rfl⟩
  obtain ⟨first, further, same⟩ := through
  rw [same, lookup?_cons] at found
  obtain ⟨part, behind, -⟩ := Option.bind_eq_some_iff.1 found
  exact isContainer_of_child? behind

/-- What is read one segment further is read at the concrete key of the segment. -/
theorem concreteKey?_of_child? (found : value.child? last = some child) :
    ∃ key, value.concreteKey? last = some key ∧ value.child? key = some child := by
  cases value with
  | map entries => exact ⟨.key last.mapKey, rfl, found⟩
  | list items =>
      obtain ⟨position, selected, held⟩ := Option.bind_eq_some_iff.1 found
      refine ⟨.index position, ?_, held⟩
      cases last with
      | key name => cases selected
      | index number =>
          cases selected
          obtain ⟨within, -⟩ := List.getElem?_eq_some_iff.1 held
          simp only [concreteKey?]
          rw [if_pos (Nat.le_of_lt within)]
      | element identifier =>
          simp only [position?] at selected
          simp only [concreteKey?]
          rw [selected]
          rfl
  | _ => cases found

/-- What is read at the concrete key of a segment is read one segment further. -/
theorem child?_of_concreteKey? {key : Segment} (reached : value.concreteKey? last = some key) :
    value.child? last = value.child? key := by
  cases value with
  | map entries =>
      cases reached
      rfl
  | list items =>
      cases last with
      | key name => cases reached
      | index position =>
          simp only [concreteKey?] at reached
          split at reached
          · cases reached
            rfl
          · cases reached
      | element identifier =>
          obtain ⟨position, selected, rfl⟩ := Option.map_eq_some_iff.1 reached
          simp only [child?, position?]
          rw [selected]
  | _ => cases reached

/-- Where a route reads a value, the way along it is there, and its place holds the value. -/
theorem openRoute_of_lookup? (ordered : value.Ordered)
    (found : value.lookup? (route ++ [last]) = some child) :
    ∃ place, value.openRoute last route = (value, some place) ∧
      value.lookup? (place.1 ++ [place.2]) = some child := by
  induction route generalizing value with
  | nil =>
      rw [List.nil_append, lookup?_cons] at found
      obtain ⟨held, step, rest⟩ := Option.bind_eq_some_iff.1 found
      obtain ⟨key, reached, same⟩ := concreteKey?_of_child? step
      refine ⟨([], key), ?_, ?_⟩
      · simp only [openRoute]
        rw [reached]
        rfl
      · rw [List.nil_append, lookup?_cons, same]
        exact rest
  | cons segment route ih =>
      rw [List.cons_append, lookup?_cons] at found
      obtain ⟨next, step, rest⟩ := Option.bind_eq_some_iff.1 found
      have container := isContainer_of_lookup? rest
      obtain ⟨place, opens, held⟩ := ih (ordered.child? step) rest
      cases value with
      | map entries =>
          have present : Dict.get? entries segment.mapKey = some next := step
          have passed : passage entries segment.mapKey = next := by
            simp only [passage]
            rw [present]
            cases next with
            | null => cases container
            | _ => rfl
          refine ⟨(.key segment.mapKey :: place.1, place.2), ?_, ?_⟩
          · simp only [openRoute]
            rw [passed, if_pos container, opens, ordered.sorted.insert_same present]
            rfl
          · rw [List.cons_append, lookup?_cons]
            exact Option.bind_eq_some_iff.2 ⟨next, step, held⟩
      | list items =>
          obtain ⟨position, selected, present⟩ := Option.bind_eq_some_iff.1 step
          obtain ⟨within, same⟩ := List.getElem?_eq_some_iff.1 present
          refine ⟨(.index position :: place.1, place.2), ?_, ?_⟩
          · simp only [openRoute]
            rw [selected]
            dsimp only
            rw [present]
            dsimp only
            rw [if_pos container, opens]
            dsimp only
            rw [← same, List.set_getElem_self]
            rfl
          · rw [List.cons_append, lookup?_cons]
            exact Option.bind_eq_some_iff.2 ⟨next, present, held⟩
      | _ => cases step

/-- Through the empty map a way leads to a place that holds nothing. -/
theorem lookup?_emptyMap (reached : (emptyMap.openRoute last route).2 = some place) :
    (emptyMap.openRoute last route).1.lookup? (place.1 ++ [place.2]) = none := by
  induction route generalizing place with
  | nil =>
      cases reached
      rfl
  | cons segment route ih =>
      obtain ⟨further, known, rfl⟩ := Option.map_eq_some_iff.1
        (show (emptyMap.openRoute last route).2.map _ = some place from reached)
      have none := ih known
      change ((Value.map [(segment.mapKey, (emptyMap.openRoute last route).1)]).lookup?
        (.key segment.mapKey :: (further.1 ++ [further.2]))) = _
      rw [lookup?_cons]
      simp only [child?, Segment.mapKey, Dict.get?, if_true, Option.bind_some]
      exact none

/-- What the place of a way holds is read along the way. -/
theorem Way.lookup? (way : Way last route value outcome) (reached : outcome.2 = some place)
    (held : outcome.1.lookup? (place.1 ++ [place.2]) = some child) :
    value.lookup? (route ++ [last]) = some child := by
  induction way generalizing place with
  | ended =>
      obtain ⟨key, known, rfl⟩ := Option.map_eq_some_iff.1 reached
      rw [List.nil_append, lookup?_cons] at held ⊢
      rw [child?_of_concreteKey? known]
      exact held
  | closed => cases reached
  | @entry segment route entries inner way same ih =>
      obtain ⟨further, known, rfl⟩ := Option.map_eq_some_iff.1 reached
      rw [List.cons_append, lookup?_cons] at held
      simp only [child?, Segment.mapKey] at held
      rw [Dict.get?_insert, if_pos rfl, Option.bind_some] at held
      have passed : Dict.get? entries segment.mapKey =
          some (passage entries segment.mapKey) := by
        -- A map that was made for the way holds nothing.
        cases present : Dict.get? entries segment.mapKey with
        | none =>
            simp only [passage, present] at same
            subst same
            rw [lookup?_emptyMap known] at held
            cases held
        | some old =>
            cases old with
            | null =>
                simp only [passage, present] at same
                subst same
                rw [lookup?_emptyMap known] at held
                cases held
            | _ => simp only [passage, present]
      rw [List.cons_append, lookup?_cons]
      exact Option.bind_eq_some_iff.2 ⟨_, passed, ih known held⟩
  | @item segment route items position next inner selected present way ih =>
      obtain ⟨further, known, rfl⟩ := Option.map_eq_some_iff.1 reached
      obtain ⟨within, -⟩ := List.getElem?_eq_some_iff.1 present
      rw [List.cons_append, lookup?_cons] at held
      simp only [child?, position?, Option.bind_some] at held
      rw [List.getElem?_set_self within, Option.bind_some] at held
      rw [List.cons_append, lookup?_cons]
      simp only [child?]
      rw [selected, Option.bind_some, present, Option.bind_some]
      exact ih known held

end Value

namespace StateTree

variable {state : StateTree} {text : String} {root : Root} {first : Segment}
variable {route : List Segment} {entries : Dict Value} {value : Value}

theorem readDerived?_authored (authored : isDerived root first = false) :
    state.readDerived? root first route = none := by
  simp only [readDerived?]
  split
  · rename_i id name
    have plain : name ∉ derivedKeys := by
      intro member
      simp only [isDerived, List.contains_iff_mem.2 member] at authored
      cases authored
    simp only [derivedKeys, List.mem_cons, List.not_mem_nil, or_false, not_or] at plain
    obtain ⟨sprites, equipment, index⟩ := plain
    cases state.character? id with
    | none => rfl
    | some character =>
        simp only [Option.bind_eq_bind, Option.bind_some, Character.derived?]
        rw [if_neg sprites, if_neg equipment, if_neg index]
        rfl
  · rfl

/-- A path to what is authored is read along its segments. -/
theorem Asks.read?_eq (asks : state.Asks text root first route entries) :
    state.read? text = (Value.map entries).lookup? (first :: route) := by
  obtain ⟨path, parsed, asked⟩ := Option.bind_eq_some_iff.1 asks.asked
  simp only [read?]
  rw [parsed]
  simp only [Option.bind_eq_bind, Option.bind_some]
  rw [asked]
  simp only [Option.bind_some]
  rw [asks.present]
  simp only [Option.bind_some]
  rw [readDerived?_authored asks.authored, Option.or_none]

/-- A path that reads something, and asks for nothing derived, asks for what is authored. -/
theorem asks_of_read? (authored : state.asksDerived text = false)
    (found : state.read? text = some value) :
    ∃ root first route entries, state.Asks text root first route entries := by
  simp only [read?, Option.bind_eq_bind, Option.bind_eq_some_iff] at found
  obtain ⟨path, parsed, ⟨root, first, route⟩, asked, entries, present, -⟩ := found
  have known : (Path.parse? text).bind state.root? = some (root, first, route) :=
    Option.bind_eq_some_iff.2 ⟨path, parsed, asked⟩
  rw [asksDerived, known] at authored
  exact ⟨root, first, route, entries, known, authored, present⟩

/-- Reading a path that asks for nothing derived, and resolving it, agree. A path that reads a value
resolves without any change of the state, and its handle reads the value; and what the handle of a
path reads behind the maps that were made for it, the path reads. -/
theorem read?_resolve (inOrder : state.InOrder) {text : String}
    (authored : state.asksDerived text = false) (value : Value) :
    (state.read? text = some value →
      ∃ handle, state.resolve text = (state, some handle) ∧ state.get? handle = some value) ∧
    ∀ resolved handle, state.resolve text = (resolved, some handle) →
      resolved.get? handle = some value → state.read? text = some value := by
  constructor
  · intro found
    obtain ⟨root, first, route, entries, asks⟩ := asks_of_read? authored found
    rw [asks.read?_eq, ← splitLast_eq] at found
    obtain ⟨place, opens, held⟩ :=
      Value.openRoute_of_lookup? (inOrder.rootMap? asks.present) found
    refine ⟨⟨root, place.1, place.2⟩, ?_, ?_⟩
    · rw [asks.resolve_eq opens, inOrder.putRootMap_same asks.present]
      rfl
    · simp only [get?]
      rw [asks.present]
      exact held
  · intro resolved handle leads held
    rcases inOrder.resolves text with lost | ⟨opened, other, paves, leadsTo⟩
    · rw [lost] at leads
      cases leads
    · rw [leadsTo] at leads
      cases leads
      obtain ⟨first, route, entries, asks, way⟩ := paves.way
      simp only [get?] at held
      rw [rootMap?_putRootMap asks.present, Option.bind_some] at held
      rw [asks.read?_eq, ← splitLast_eq]
      exact way.lookup? rfl held

theorem read?_resolve_cellar :
    cellar.InOrder ∧ cellar.asksDerived "global.bag[coin].id" = false ∧
      (∃ handle, cellar.resolve "global.bag[coin].id" = (cellar, some handle) ∧
        (cellar.get? handle).bind Value.text? = some "coin") ∧
      ∀ resolved handle, cellar.resolve "global.door.lock" = (resolved, some handle) →
        resolved.get? handle = none := by
  refine ⟨cellar_inOrder, by decide +kernel, ?_, ?_⟩
  · have named : (cellar.read? "global.bag[coin].id").bind Value.text? = some "coin" := by
      decide +kernel
    obtain ⟨value, found, coin⟩ := Option.bind_eq_some_iff.1 named
    obtain ⟨handle, leads, held⟩ :=
      (read?_resolve cellar_inOrder (by decide +kernel) value).1 found
    refine ⟨handle, leads, ?_⟩
    rw [held]
    exact coin
  · intro resolved handle leads
    have unread : (cellar.read? "global.door.lock").isNone = true := by decide +kernel
    cases held : resolved.get? handle with
    | none => rfl
    | some value =>
        rw [(read?_resolve cellar_inOrder (by decide +kernel) value).2 resolved handle leads held]
          at unread
        cases unread

end StateTree

end VisualNovel
