import VisualNovel.Path
import VisualNovel.Proofs.Saves.Documents

/-!
# Numbers that cannot be saved

A document has no place for a number that is not finite. The search through a record finds the first
one in the order of maps and lists, with the path that leads to it, and finds none exactly when the
record is read back from the form that its text shows.
-/

namespace VisualNovel

namespace Value

/-! ## Places of numbers -/

/-- A route of keys and positions leads from the value to the number. -/
inductive Holds : Value → List Segment → Float → Prop where
  | here (number : Float) : Holds (.float number) [] number
  | item {items : List Value} {position : Nat} {item : Value} {route : List Segment}
      {number : Float} : items[position]? = some item → Holds item route number →
      Holds (.list items) (.index position :: route) number
  | entry {entries : Dict Value} {key : String} {value : Value} {route : List Segment}
      {number : Float} : Dict.get? entries key = some value → Holds value route number →
      Holds (.map entries) (.key key :: route) number

/-- A route leads to the number that is read there. -/
theorem Holds.lookup? {value : Value} {route : List Segment} {number : Float}
    (holds : Holds value route number) : value.lookup? route = some (.float number) := by
  induction holds with
  | here number => rfl
  | item selected _ ih => simp [child?, position?, selected, ih]
  | entry selected _ ih => simp [child?, Segment.mapKey, selected, ih]

/-- The first route leads to a place in front of the second: where they part, it has the smaller
position, or the smaller key. -/
inductive Before : List Segment → List Segment → Prop where
  | item {first second : Nat} (left right : List Segment) : first < second →
      Before (.index first :: left) (.index second :: right)
  | entry {first second : String} (left right : List Segment) : first < second →
      Before (.key first :: left) (.key second :: right)
  | further (segment : Segment) {left right : List Segment} : Before left right →
      Before (segment :: left) (segment :: right)

/-- The path of a value with one segment more. -/
def extended (path : String) : Segment → String
  | .key name => joinKey path name
  | segment => path ++ segment.display

/-- The path at the end of a route, behind the path of a value. -/
def pathAt (path : String) (route : List Segment) : String :=
  route.foldl extended path

/-- Every number in the value is finite. -/
def Finite (value : Value) : Prop :=
  ∀ route number, Holds value route number → number.isFinite = true

/-- The text is the path to the first number in the value that is not finite. -/
def FirstNonFinite (path : String) (value : Value) (text : String) : Prop :=
  ∃ route number, Holds value route number ∧ number.isFinite = false ∧
    text = pathAt path route ∧
    ∀ other earlier, Holds value other earlier → Before other route → earlier.isFinite = true

variable {items : List Value} {entries : Dict Value} {value : Value} {path text : String}

/-! ## The search through a value -/

theorem nonFiniteItem?_none {index position : Nat} {item : Value}
    (none_found : nonFiniteItem? path index items = none)
    (selected : items[position]? = some item) :
    nonFinite? (extended path (.index (index + position))) item = none := by
  induction items generalizing index position with
  | nil => cases selected
  | cons first items ih =>
      rw [nonFiniteItem?, Option.or_eq_none_iff] at none_found
      cases position with
      | zero =>
          cases selected
          simpa [extended, Segment.display, String.append_assoc] using none_found.1
      | succ position =>
          rw [show index + (position + 1) = index + 1 + position by omega]
          exact ih none_found.2 selected

theorem nonFiniteMember?_none {key : String} (none_found : nonFiniteMember? path entries = none)
    (selected : Dict.get? entries key = some value) :
    nonFinite? (extended path (.key key)) value = none := by
  induction entries with
  | nil => cases selected
  | cons entry entries ih =>
      obtain ⟨first, held⟩ := entry
      rw [nonFiniteMember?, Option.or_eq_none_iff] at none_found
      rw [Dict.get?] at selected
      split at selected
      · rename_i same
        cases selected
        rw [← same]
        exact none_found.1
      · exact ih none_found.2 selected

/-- Where the search finds nothing, every number is finite. -/
theorem finite_of_nonFinite? (none_found : value.nonFinite? path = none) : value.Finite := by
  intro route number holds
  induction holds generalizing path with
  | here number =>
      rw [nonFinite?] at none_found
      split at none_found
      · assumption
      · cases none_found
  | item selected _ ih => exact ih (nonFiniteItem?_none none_found selected)
  | entry selected _ ih => exact ih (nonFiniteMember?_none none_found selected)

/-- What is found in a list is found in one item, and in none of the items before. -/
theorem nonFiniteItem?_some {index : Nat} (found : nonFiniteItem? path index items = some text) :
    ∃ position item, items[position]? = some item ∧
      nonFinite? (extended path (.index (index + position))) item = some text ∧
      ∀ earlier < position, ∀ other, items[earlier]? = some other → other.Finite := by
  induction items generalizing index with
  | nil => cases found
  | cons first items ih =>
      rw [nonFiniteItem?, Option.or_eq_some_iff] at found
      rcases found with here | ⟨passed, later⟩
      · refine ⟨0, first, rfl, ?_, fun _ absurd => (Nat.not_lt_zero _ absurd).elim⟩
        simpa [extended, Segment.display, String.append_assoc] using here
      · obtain ⟨position, item, selected, there, before⟩ := ih later
        refine ⟨position + 1, item, selected, ?_, ?_⟩
        · rw [show index + (position + 1) = index + 1 + position by omega]
          exact there
        · intro earlier behind other other_selected
          cases earlier with
          | zero =>
              cases other_selected
              exact finite_of_nonFinite? passed
          | succ earlier => exact before earlier (by omega) other other_selected

/-- What is found in a map is found under one key, and under none of the smaller keys. -/
theorem nonFiniteMember?_some (sorted : Dict.Sorted entries)
    (found : nonFiniteMember? path entries = some text) :
    ∃ key value, Dict.get? entries key = some value ∧
      nonFinite? (extended path (.key key)) value = some text ∧
      ∀ earlier < key, ∀ other, Dict.get? entries earlier = some other → other.Finite := by
  induction entries with
  | nil => cases found
  | cons entry entries ih =>
      obtain ⟨first, held⟩ := entry
      rw [nonFiniteMember?, Option.or_eq_some_iff] at found
      rcases found with here | ⟨passed, later⟩
      · refine ⟨first, held, by simp [Dict.get?], here, ?_⟩
        intro earlier behind other selected
        have least : ∀ entry ∈ (first, held) :: entries, earlier < entry.1 := by
          refine List.forall_mem_cons.2 ⟨behind, fun entry member => ?_⟩
          exact String.lt_trans behind (sorted.head_lt entry member)
        rw [Dict.get?_eq_none_of_lt least] at selected
        cases selected
      · obtain ⟨key, value, selected, there, before⟩ := ih sorted.tail later
        have behind : first < key := sorted.head_lt _ (Dict.mem_of_get? selected)
        refine ⟨key, value, ?_, there, ?_⟩
        · rw [Dict.get?, if_neg (String.ne_of_lt behind)]
          exact selected
        · intro earlier smaller other other_selected
          rw [Dict.get?] at other_selected
          split at other_selected
          · cases other_selected
            exact finite_of_nonFinite? passed
          · exact before earlier smaller other other_selected

/-- The search finds the first number that is not finite. -/
theorem firstNonFinite_of_nonFinite? (ordered : value.Ordered)
    (found : value.nonFinite? path = some text) : value.FirstNonFinite path text := by
  induction ordered generalizing path text with
  | null | bool _ | int _ | text _ => cases found
  | float number =>
      rw [nonFinite?] at found
      split at found
      · cases found
      · rename_i infinite
        cases found
        refine ⟨[], number, .here number, by simpa using infinite, rfl, ?_⟩
        intro other earlier _ before
        cases before
  | @list items _ ih =>
      obtain ⟨position, item, selected, there, passed⟩ := nonFiniteItem?_some found
      rw [Nat.zero_add] at there
      obtain ⟨route, number, holds, infinite, shape, least⟩ :=
        ih item (List.mem_of_getElem? selected) there
      refine ⟨.index position :: route, number, .item selected holds, infinite, shape, ?_⟩
      intro other earlier held before
      cases held with
      | item other_selected held =>
          cases before with
          | item _ _ smaller => exact passed _ smaller _ other_selected _ _ held
          | further _ before =>
              rw [selected] at other_selected
              cases other_selected
              exact least _ _ held before
  | @map entries sorted _ ih =>
      obtain ⟨key, value, selected, there, passed⟩ := nonFiniteMember?_some sorted found
      obtain ⟨route, number, holds, infinite, shape, least⟩ :=
        ih (key, value) (Dict.mem_of_get? selected) there
      refine ⟨.key key :: route, number, .entry selected holds, infinite, shape, ?_⟩
      intro other earlier held before
      cases held with
      | entry other_selected held =>
          cases before with
          | entry _ _ smaller => exact passed _ smaller _ other_selected _ _ held
          | further _ before =>
              rw [selected] at other_selected
              cases other_selected
              exact least _ _ held before

end Value

namespace SaveRecord

variable {game : SaveRecord}

/-! ## The search through a record -/

/-- The changed fields of every character, each behind its path. -/
def searchedDeltas (deltas : Dict (Dict Value)) : List (String × Value) :=
  deltas.map fun delta => ("characterDataDelta." ++ delta.1, .map delta.2)

/-- The display fields of the characters that are shown, each behind its path. -/
def searchedDisplay (visible : List VisibleCharacter) : List (String × Value) :=
  visible.zipIdx.flatMap fun (character, index) =>
    character.displayFields.map fun field =>
      ("visibleCharacters[" ++ toString index ++ "]." ++ field.1, field.2)

/-- The values of a record that are searched, in order: the global map, the changed fields, and the
display fields. -/
def searched (game : SaveRecord) : List (String × Value) :=
  ("globalData", .map game.global) :: searchedDeltas game.deltas ++ searchedDisplay game.visible

theorem findSome?_flatMap {α β γ : Type} (parts : α → List β) (look : β → Option γ)
    (items : List α) :
    (items.flatMap parts).findSome? look = items.findSome? fun item => (parts item).findSome? look := by
  induction items with
  | nil => rfl
  | cons item items ih =>
      rw [List.flatMap_cons, List.findSome?_append, ih, List.findSome?_cons]
      cases (parts item).findSome? look <;> rfl

theorem nonFinite?_eq_findSome? (game : SaveRecord) :
    game.nonFinite? = game.searched.findSome? fun entry => entry.2.nonFinite? entry.1 := by
  simp only [nonFinite?, nonFiniteDelta?, nonFiniteDisplay?, searched, searchedDeltas,
    searchedDisplay, List.cons_append, List.findSome?_cons, List.findSome?_append,
    List.findSome?_map, findSome?_flatMap]
  cases (Value.map game.global).nonFinite? "globalData" <;> rfl

/-- The text is the path to the first number in the searched values that is not finite. -/
def FirstNonFinite (game : SaveRecord) (text : String) : Prop :=
  ∃ before path value after, game.searched = before ++ (path, value) :: after ∧
    value.FirstNonFinite path text ∧ ∀ entry ∈ before, entry.2.Finite

theorem searched_ordered (proper : game.Proper) : ∀ entry ∈ game.searched, entry.2.Ordered := by
  intro entry member
  rcases List.mem_append.1 member with member | member
  · rcases List.mem_cons.1 member with rfl | member
    · exact proper.global
    · obtain ⟨delta, changed, rfl⟩ := List.mem_map.1 member
      exact .map (proper.delta delta changed) (proper.deltas delta changed)
  · obtain ⟨⟨character, index⟩, shown, member⟩ := List.mem_flatMap.1 member
    obtain ⟨field, displayed, rfl⟩ := List.mem_map.1 member
    exact proper.visible character (List.fst_mem_of_mem_zipIdx shown) field displayed

/-- The search finds the first number that is not finite. -/
theorem firstNonFinite_of_nonFinite? (proper : game.Proper) {path : String}
    (found : game.nonFinite? = some path) : game.FirstNonFinite path := by
  rw [nonFinite?_eq_findSome?] at found
  obtain ⟨before, entry, after, shape, here, passed⟩ := List.findSome?_eq_some_iff.1 found
  refine ⟨before, entry.1, entry.2, after, shape, ?_, fun other member => ?_⟩
  · have searched : entry ∈ game.searched := by simp [shape]
    exact Value.firstNonFinite_of_nonFinite? (searched_ordered proper entry searched) here
  · exact Value.finite_of_nonFinite? (passed other member)

/-! ## What is read back -/

theorem map_eq_self_iff {α : Type} {change : α → α} {items : List α} :
    items.map change = items ↔ ∀ item ∈ items, change item = item := by
  conv_lhs => rhs; rw [← List.map_id items]
  exact List.map_eq_map_iff

/-- An absent value is left as it is. -/
theorem plain_eq_self_of_isNull {value : Value} (absent : value.isNull = true) :
    value.plain = value := by
  cases value with
  | null => rfl
  | _ => cases absent

/-- A character is left as it is exactly when its display fields are. -/
theorem character_plain_eq_self_iff (character : VisibleCharacter) :
    character.plain = character ↔ ∀ field ∈ character.displayFields, field.2.plain = field.2 := by
  have shown : (∀ field ∈ character.displayFields, field.2.plain = field.2) ↔
      ∀ field ∈ character.allFields, field.2.plain = field.2 := by
    rw [VisibleCharacter.displayFields_eq_filter]
    constructor
    · intro each field member
      cases absent : field.2.isNull with
      | true => exact plain_eq_self_of_isNull absent
      | false => exact each field (List.mem_filter.2 ⟨member, by simp [absent]⟩)
    · exact fun each field member => each field (List.mem_filter.1 member).1
  rw [shown]
  obtain ⟨id, position, orientation, back, customClass, scale⟩ := character
  simp [VisibleCharacter.plain, VisibleCharacter.allFields]

theorem deltas_plain_eq_self_iff (deltas : Dict (Dict Value)) :
    Dict.mapValues Value.plainEntries deltas = deltas ↔
      ∀ entry ∈ searchedDeltas deltas, entry.2.plain = entry.2 := by
  rw [Dict.mapValues, map_eq_self_iff, searchedDeltas, List.forall_mem_map]
  simp [Value.plain]

theorem visible_plain_eq_self_iff (visible : List VisibleCharacter) :
    visible.map VisibleCharacter.plain = visible ↔
      ∀ entry ∈ searchedDisplay visible, entry.2.plain = entry.2 := by
  rw [map_eq_self_iff]
  constructor
  · intro each entry member
    obtain ⟨⟨character, index⟩, shown, member⟩ := List.mem_flatMap.1 member
    obtain ⟨field, displayed, rfl⟩ := List.mem_map.1 member
    exact (character_plain_eq_self_iff character).1
      (each character (List.fst_mem_of_mem_zipIdx shown)) field displayed
  · intro each character member
    obtain ⟨index, within, rfl⟩ := List.mem_iff_getElem.1 member
    refine (character_plain_eq_self_iff _).2 fun field displayed => ?_
    have shown : (visible[index], index) ∈ visible.zipIdx := by
      simp [List.mem_zipIdx_iff_getElem?]
    have searched : ("visibleCharacters[" ++ toString index ++ "]." ++ field.1, field.2) ∈
        searchedDisplay visible :=
      List.mem_flatMap.2 ⟨_, shown, List.mem_map.2 ⟨field, displayed, rfl⟩⟩
    have kept := each _ searched
    exact kept

/-- A record is left as it is exactly when the search finds nothing. -/
theorem plain_eq_self_iff (game : SaveRecord) : game.plain = game ↔ game.nonFinite? = none := by
  have each : game.nonFinite? = none ↔ ∀ entry ∈ game.searched, entry.2.plain = entry.2 := by
    simp only [nonFinite?_eq_findSome?, List.findSome?_eq_none_iff, ← Value.plain_eq_self_iff]
  rw [each, searched, List.forall_mem_append, List.forall_mem_cons, ← deltas_plain_eq_self_iff,
    ← visible_plain_eq_self_iff, Value.plain, Value.map.injEq]
  obtain ⟨unitId, step, callStack, global, deltas, visible, scene, history, audio, part⟩ := game
  simp [plain, and_assoc]

/-- The search for numbers that are not finite is exact. It finds none exactly when the record, without
the identifiers of its streams, is read back from the form that the text of its document shows; and
what it finds is the path to the first such number in the global map, in the changed fields and in the
display fields, in this order. -/
theorem nonFinite?_exact (game : SaveRecord) (proper : game.Proper) :
    (game.nonFinite? = none ↔ ofJson? game.toJson.written = some game.withoutStreamIds) ∧
      ∀ path, game.nonFinite? = some path → game.FirstNonFinite path := by
  refine ⟨?_, fun path found => firstNonFinite_of_nonFinite? proper found⟩
  rw [ofJson?_written proper, ← plain_eq_self_iff]
  obtain ⟨unitId, step, callStack, global, deltas, visible, scene, history, audio, part⟩ := game
  simp [plain, withoutStreamIds]

/-- A game with an endless purse, and with a character whose weight is undefined. -/
def endlessRecord : SaveRecord :=
  { empty with
    global := [("hp", .int 3), ("purse", .map [("coins", .list [.int 1, .float (1.0 / 0.0)])])]
    deltas := [("mc", [("weight", .float (0.0 / 0.0))])]
    audio := [("rain", ⟨"rain", .music, "rain.ogg", true⟩)] }

theorem endlessRecord_proper : endlessRecord.Proper where
  global := by
    refine .map (List.pairwise_pair.2 (by decide)) (List.forall_mem_cons.2 ⟨.int 3, ?_⟩)
    refine List.forall_mem_singleton.2 (.map (by simp [Dict.Sorted]) ?_)
    refine List.forall_mem_singleton.2 (.list (List.forall_mem_cons.2 ⟨.int 1, ?_⟩))
    exact List.forall_mem_singleton.2 (.float _)
  deltas := List.forall_mem_singleton.2 (List.forall_mem_singleton.2 (.float _))
  visible := by
    simp [endlessRecord, empty]
  delta := by
    simp [endlessRecord, Dict.Sorted]
  characters := by
    simp [endlessRecord, Dict.Sorted]
  streams := by
    simp [endlessRecord, Dict.Sorted]

theorem nonFinite?_exact_endless :
    endlessRecord.nonFinite? = some "globalData.purse.coins[1]" ∧
      endlessRecord.FirstNonFinite "globalData.purse.coins[1]" ∧
      ofJson? endlessRecord.toJson.written ≠ some endlessRecord.withoutStreamIds := by
  have found : endlessRecord.nonFinite? = some "globalData.purse.coins[1]" := by
    decide +kernel
  have exact_search := nonFinite?_exact endlessRecord endlessRecord_proper
  refine ⟨found, exact_search.2 _ found, fun back => ?_⟩
  rw [exact_search.1.2 back] at found
  cases found

end SaveRecord

end VisualNovel
