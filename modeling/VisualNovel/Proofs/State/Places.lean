import VisualNovel.Proofs.State.Ways

/-!
# Places in a value

A place is a route that says what it goes through: keys on maps, positions on lists. A way leads to
a place, and storing at its end puts a value there (`Way.put`). A place beside the one that a value
is put at keeps what it holds, and the containers on the way to it stay of their kind.
-/

namespace VisualNovel.Value

variable {value after container child inner new : Value} {segment last : Segment}
variable {route place other : List Segment}

/-- The part of a map under a key, or of a list at a position. -/
def part? (value : Value) (segment : Segment) : Option Value :=
  match value, segment with
  | .map entries, .key name => Dict.get? entries name
  | .list items, .index position => items[position]?
  | _, _ => none

/-- What a value holds at a place. -/
def at? (value : Value) (place : List Segment) : Option Value :=
  place.foldlM part? value

@[simp] theorem at?_nil (value : Value) : value.at? [] = some value := rfl

@[simp] theorem at?_cons (value : Value) (segment : Segment) (place : List Segment) :
    value.at? (segment :: place) = (value.part? segment).bind fun part => part.at? place := rfl

/-- A part under a key or at a position is what a segment selects, if it names the same. -/
theorem child?_of_part? {key : Segment} (found : value.part? key = some child)
    (names : key = .key segment.mapKey ∨ key = segment) : value.child? segment = some child := by
  cases value with
  | map entries =>
      cases names with
      | inl key => subst key; exact found
      | inr same =>
          subst same
          cases key with
          | key name => exact found
          | _ => cases found
  | list items =>
      cases names with
      | inl key => subst key; cases found
      | inr same =>
          subst same
          cases key with
          | index position => exact found
          | _ => cases found
  | _ => cases found

/-- What a value holds at a place is found by looking the place up. -/
theorem lookup?_of_at? (found : value.at? place = some child) :
    value.lookup? place = some child := by
  induction place generalizing value with
  | nil => exact found
  | cons segment place ih =>
      rw [at?_cons] at found
      obtain ⟨part, first, rest⟩ := Option.bind_eq_some_iff.1 found
      rw [lookup?_cons, child?_of_part? first (.inr rfl), Option.bind_some]
      exact ih rest

theorem at?_of_scalar (scalar : value.isContainer = false) (nonempty : place ≠ []) :
    value.at? place = none := by
  cases place with
  | nil => exact absurd rfl nonempty
  | cons segment place =>
      rw [at?_cons]
      cases value with
      | map entries => cases scalar
      | list items => cases scalar
      | _ => rfl

theorem at?_emptyMap (nonempty : place ≠ []) : emptyMap.at? place = none := by
  cases place with
  | nil => exact absurd rfl nonempty
  | cons segment place => cases segment <;> rfl

/-! ## One part of a container -/

/-- A container with another value as one of its parts. -/
structure Replaces (container : Value) (segment : Segment) (child after : Value) : Prop where
  parts : ∀ other, after.part? other = if other = segment then some child else container.part? other
  contained : container.isContainer = true
  contains : after.isContainer = true
  kind : after.list?.isSome = container.list?.isSome

theorem insert_replaces (entries : Dict Value) (name : String) (child : Value) :
    Replaces (.map entries) (.key name) child (.map (Dict.insert name child entries)) := by
  refine ⟨?_, rfl, rfl, rfl⟩
  intro other
  cases other with
  | key wanted =>
      simp only [part?]
      rw [Dict.get?_insert]
      simp only [Segment.key.injEq, eq_comm]
  | _ => rfl

theorem set_replaces {items : List Value} {position : Nat} (within : position < items.length)
    (child : Value) :
    Replaces (.list items) (.index position) child (.list (items.set position child)) := by
  refine ⟨?_, rfl, rfl, rfl⟩
  intro other
  cases other with
  | index wanted =>
      simp only [part?]
      rw [List.getElem?_set]
      simp only [within, if_true, Segment.index.injEq, eq_comm]
  | _ => rfl

theorem push_replaces (items : List Value) (child : Value) :
    Replaces (.list items) (.index items.length) child (.list (items ++ [child])) := by
  refine ⟨?_, rfl, rfl, rfl⟩
  intro other
  cases other with
  | index wanted =>
      simp only [part?, Segment.index.injEq]
      split
      · rename_i same
        rw [same, List.getElem?_concat_length]
      · rename_i different
        rw [List.getElem?_append]
        split
        · rfl
        · rw [List.getElem?_eq_none (by simp; omega), List.getElem?_eq_none (by omega)]
  | _ => rfl

theorem store?_replaces {key : Segment} (stores : container.store? key new = some after) :
    Replaces container key new after := by
  simp only [store?] at stores
  split at stores
  · cases stores
    exact insert_replaces _ _ _
  · split at stores
    · rename_i within
      cases stores
      exact set_replaces within _
    · split at stores
      · rename_i same
        cases stores
        subst same
        exact push_replaces _ _
      · cases stores
  · cases stores

/-- What stands behind a segment of a container when a way goes through it: its part, or the empty
map where there is nothing. -/
def Enters (container : Value) (segment : Segment) (child : Value) : Prop :=
  container.part? segment = some child ∨
    ((container.part? segment).all isNull = true ∧ child = emptyMap)

theorem passage_enters (entries : Dict Value) (name : String) :
    Enters (.map entries) (.key name) (passage entries name) := by
  simp only [Enters, part?, passage]
  split
  · rename_i missing
    rw [missing]
    exact .inr ⟨rfl, rfl⟩
  · rename_i found
    rw [found]
    exact .inr ⟨rfl, rfl⟩
  · rename_i found
    exact .inl found

/-- Behind a segment a way finds what is held there. -/
theorem Enters.at? (enters : Enters container segment child) (nonempty : place ≠ []) :
    child.at? place = container.at? (segment :: place) := by
  rw [at?_cons]
  cases enters with
  | inl found => rw [found, Option.bind_some]
  | inr vacant =>
      obtain ⟨nothing, rfl⟩ := vacant
      rw [at?_emptyMap nonempty]
      cases found : container.part? segment with
      | none => rfl
      | some held =>
          rw [found] at nothing
          cases held with
          | null => exact (at?_of_scalar rfl nonempty).symm
          | _ => cases nothing

/-- Behind a segment a way finds a list where one is held. -/
theorem Enters.kind (enters : Enters container segment child) (place : List Segment) :
    ((child.at? place).bind list?).isSome =
      ((container.at? (segment :: place)).bind list?).isSome := by
  cases place with
  | cons second place => rw [enters.at? (List.cons_ne_nil second place)]
  | nil =>
      rw [at?_cons]
      cases enters with
      | inl found => rw [found, Option.bind_some]
      | inr vacant =>
          obtain ⟨nothing, rfl⟩ := vacant
          cases found : container.part? segment with
          | none => rfl
          | some held =>
              rw [found] at nothing
              cases held with
              | null => rfl
              | _ => cases nothing

/-- Whether a way may lead through a value: a container, or null, which a map takes the place of. -/
def isPassable (value : Value) : Bool :=
  value.isNull || value.isContainer

/-- Where a way may lead through what stands behind a segment, it may lead through what is held
there. -/
theorem Enters.isPassable (enters : Enters container segment child)
    (passable : (child.at? place).all Value.isPassable = true) :
    (container.at? (segment :: place)).all Value.isPassable = true := by
  cases place with
  | cons second place =>
      rw [← enters.at? (List.cons_ne_nil second place)]
      exact passable
  | nil =>
      rw [at?_cons]
      cases enters with
      | inl found =>
          rw [found, Option.bind_some]
          exact passable
      | inr vacant =>
          cases found : container.part? segment with
          | none => rfl
          | some held =>
              have nothing := vacant.1
              rw [found, Option.all_some] at nothing
              rw [Option.bind_some, at?_nil, Option.all_some, Value.isPassable, nothing]
              rfl

/-! ## Putting a value at a place -/

/-- A value put at a place of another one, through maps made where nothing is. -/
inductive Put (new : Value) : List Segment → Value → Value → Prop where
  | here {segment : Segment} {container after : Value} :
      Replaces container segment new after → Put new [segment] container after
  | through {segment : Segment} {place : List Segment} {container child inner after : Value} :
      Enters container segment child → Put new place child inner →
      Replaces container segment inner after → Put new (segment :: place) container after

/-- The value that is put at a place is held there. -/
theorem Put.at? (put : Put new place value after) : after.at? place = some new := by
  induction put with
  | here replaces =>
      rw [at?_cons, replaces.parts, if_pos rfl]
      rfl
  | through enters put replaces ih =>
      rw [at?_cons, replaces.parts, if_pos rfl, Option.bind_some]
      exact ih

/-- A place that neither leads to the one of the value nor through it keeps what it holds. -/
theorem Put.beside (put : Put new place value after) (above : ¬ other <+: place)
    (below : ¬ place <+: other) : after.at? other = value.at? other := by
  induction put generalizing other with
  | @here segment container after replaces =>
      cases other with
      | nil => exact absurd (List.nil_prefix) above
      | cons first other =>
          rw [at?_cons, at?_cons, replaces.parts, if_neg]
          intro same
          subst same
          exact below (List.cons_prefix_cons.2 ⟨rfl, List.nil_prefix⟩)
  | @through segment place container child inner after enters put replaces ih =>
      cases other with
      | nil => exact absurd (List.nil_prefix) above
      | cons first other =>
          rw [at?_cons, replaces.parts]
          split
          · rename_i same
            subst same
            have apart : ¬ other <+: place := fun leads =>
              above (List.cons_prefix_cons.2 ⟨rfl, leads⟩)
            have beyond : ¬ place <+: other := fun leads =>
              below (List.cons_prefix_cons.2 ⟨rfl, leads⟩)
            rw [Option.bind_some, ih apart beyond]
            apply enters.at?
            rintro rfl
            exact apart List.nil_prefix
          · rw [at?_cons]

/-- On the way to the place of the value, a list stays a list, and all else is a map. -/
theorem Put.along (put : Put new place value after) (leads : other <+: place)
    (short : other ≠ place) :
    (after.at? other).any isContainer = true ∧
      ((after.at? other).bind list?).isSome = ((value.at? other).bind list?).isSome := by
  induction put generalizing other with
  | here replaces =>
      cases other with
      | nil => exact ⟨replaces.contains, replaces.kind⟩
      | cons first other =>
          obtain ⟨rfl, rest⟩ := List.cons_prefix_cons.1 leads
          rw [List.prefix_nil.1 rest] at short
          exact absurd rfl short
  | through enters put replaces ih =>
      cases other with
      | nil => exact ⟨replaces.contains, replaces.kind⟩
      | cons first other =>
          obtain ⟨rfl, rest⟩ := List.cons_prefix_cons.1 leads
          have further := ih rest fun same => short (congrArg _ same)
          rw [enters.kind other] at further
          rw [at?_cons, replaces.parts, if_pos rfl, Option.bind_some]
          exact further

/-- On the way to the place of the value there were only containers and null, as far as there was
anything. -/
theorem Put.passable (put : Put new place value after) (leads : other <+: place)
    (short : other ≠ place) : (value.at? other).all isPassable = true := by
  have contained : ∀ {container : Value}, container.isContainer = true →
      (container.at? []).all isPassable = true := by
    intro container contained
    rw [at?_nil, Option.all_some, isPassable, contained, Bool.or_true]
  induction put generalizing other with
  | here replaces =>
      cases other with
      | nil => exact contained replaces.contained
      | cons first other =>
          obtain ⟨rfl, rest⟩ := List.cons_prefix_cons.1 leads
          rw [List.prefix_nil.1 rest] at short
          exact absurd rfl short
  | through enters put replaces ih =>
      cases other with
      | nil => exact contained replaces.contained
      | cons first other =>
          obtain ⟨rfl, rest⟩ := List.cons_prefix_cons.1 leads
          apply enters.isPassable
          exact ih rest fun same => short (congrArg _ same)

/-! ## Storing at the end of a way -/

/-- Storing through a new entry of a map is storing in the entry. -/
theorem storeAt?_entry {key : Segment} {entries : Dict Value} {name : String}
    (stores : storeAt? key new (.key name :: place) (.map (Dict.insert name child entries)) =
      some after) :
    ∃ stored, storeAt? key new place child = some stored ∧
      after = .map (Dict.insert name stored entries) := by
  simp only [storeAt?] at stores
  rw [Dict.get?_insert, if_pos rfl] at stores
  simp only [Option.bind_eq_bind, Option.bind_some, Option.bind_eq_some_iff,
    Option.some.injEq] at stores
  obtain ⟨stored, rest, same⟩ := stores
  rw [Dict.insert_insert] at same
  exact ⟨stored, rest, same.symm⟩

/-- Storing through a new item of a list is storing in the item. -/
theorem storeAt?_item {key : Segment} {items : List Value} {position : Nat}
    (within : position < items.length)
    (stores : storeAt? key new (.index position :: place) (.list (items.set position child)) =
      some after) :
    ∃ stored, storeAt? key new place child = some stored ∧
      after = .list (items.set position stored) := by
  simp only [storeAt?] at stores
  rw [List.getElem?_set_self within] at stores
  simp only [Option.bind_eq_bind, Option.bind_some, Option.bind_eq_some_iff,
    Option.some.injEq] at stores
  obtain ⟨stored, rest, same⟩ := stores
  rw [List.set_set] at same
  exact ⟨stored, rest, same.symm⟩

variable {outcome : Value × Option (List Segment × Segment)} {concrete : List Segment}
variable {key : Segment}

/-- Storing at the end of a way puts the value at its place. -/
theorem Way.put (way : Way last route value outcome) (found : outcome.2 = some (concrete, key))
    (stores : Value.storeAt? key new concrete outcome.1 = some after) :
    Put new (concrete ++ [key]) value after := by
  induction way generalizing concrete after with
  | ended =>
      obtain ⟨final, -, same⟩ := Option.map_eq_some_iff.1 found
      cases same
      exact .here (store?_replaces stores)
  | closed => cases found
  | entry way same ih =>
      obtain ⟨further, known, place⟩ := Option.map_eq_some_iff.1 found
      cases place
      obtain ⟨stored, rest, rfl⟩ := storeAt?_entry stores
      exact .through (passage_enters _ _) (ih known rest) (insert_replaces _ _ _)
  | item selected present way ih =>
      obtain ⟨further, known, place⟩ := Option.map_eq_some_iff.1 found
      cases place
      obtain ⟨within, -⟩ := List.getElem?_eq_some_iff.1 present
      obtain ⟨stored, rest, rfl⟩ := storeAt?_item within stores
      exact .through (.inl present) (ih known rest) (set_replaces within _)

/-! ## Selectors by identifier -/

/-- Whether a route picks an item of a list by its identifier. -/
def picks : List Segment → Value → Bool
  | [], _ => false
  | segment :: route, value =>
    match value, segment with
    | .list _, .element _ => true
    | _, _ => (value.child? segment).any (picks route)

/-- What a route without picks goes through has none ahead. -/
theorem picks_child (plain : picks (segment :: route) value = false)
    (found : value.child? segment = some child) : picks route child = false := by
  unfold picks at plain
  split at plain
  · cases plain
  · rw [found] at plain
    exact plain

/-- Without picks, a position is selected by its number. -/
theorem position?_plain {items : List Value} {position : Nat}
    (plain : picks (segment :: route) (.list items) = false)
    (selected : position? items segment = some position) : segment = .index position := by
  cases segment with
  | key name => cases selected
  | index number =>
      cases selected
      rfl
  | element identifier => cases plain

theorem picks_emptyMap (route : List Segment) : picks route emptyMap = false := by
  cases route <;> rfl

/-- What a way goes through has no picks ahead either. -/
theorem picks_passage {entries : Dict Value}
    (plain : picks (segment :: route) (.map entries) = false) :
    picks route (passage entries segment.mapKey) = false := by
  simp only [passage]
  split
  · exact picks_emptyMap route
  · exact picks_emptyMap route
  · rename_i found
    exact picks_child plain found

/-- A value that is stored at the end of a way is read along the way, if this picks no item by its
identifier: the item may have another one afterwards. -/
theorem Way.reads (way : Way last route value outcome) (found : outcome.2 = some (concrete, key))
    (plain : picks (route ++ [last]) value = false)
    (stores : Value.storeAt? key new concrete outcome.1 = some after) :
    after.lookup? (route ++ [last]) = some new := by
  induction way generalizing concrete after with
  | @ended value =>
      obtain ⟨final, reached, same⟩ := Option.map_eq_some_iff.1 found
      cases same
      have held := (store?_replaces stores).parts key
      rw [if_pos rfl] at held
      have names : key = .key last.mapKey ∨ key = last := by
        cases value with
        | map entries =>
            cases reached
            exact .inl rfl
        | list items =>
            cases last with
            | key name => cases reached
            | index position =>
                simp only [concreteKey?] at reached
                split at reached
                · cases reached
                  exact .inr rfl
                · cases reached
            | element identifier => cases plain
        | _ => cases reached
      rw [List.nil_append, lookup?_cons, child?_of_part? held names, Option.bind_some, lookup?_nil]
  | closed => cases found
  | @entry segment route entries inner way same ih =>
      obtain ⟨further, known, place⟩ := Option.map_eq_some_iff.1 found
      cases place
      obtain ⟨stored, rest, rfl⟩ := storeAt?_entry stores
      have step : (Value.map (Dict.insert segment.mapKey stored entries)).child? segment =
          some stored := by
        simp only [child?]
        rw [Dict.get?_insert, if_pos rfl]
      rw [List.cons_append, lookup?_cons, step, Option.bind_some]
      exact ih known (picks_passage plain) rest
  | @item segment route items position child inner selected present way ih =>
      obtain ⟨further, known, place⟩ := Option.map_eq_some_iff.1 found
      cases place
      obtain ⟨within, -⟩ := List.getElem?_eq_some_iff.1 present
      obtain ⟨stored, rest, rfl⟩ := storeAt?_item within stores
      have number := position?_plain plain selected
      subst number
      have step : (Value.list (items.set position stored)).child? (.index position) =
          some stored := by
        simp only [child?, position?, Option.bind_some]
        rw [List.getElem?_set_self within]
      rw [List.cons_append, lookup?_cons, step, Option.bind_some]
      exact ih known (picks_child plain present) rest

end VisualNovel.Value
