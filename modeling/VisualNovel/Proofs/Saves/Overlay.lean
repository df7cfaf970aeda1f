import VisualNovel.Proofs.Saves.Relaid
import VisualNovel.State.Tree

/-!
# Characters under the fields of a record

A record is laid over the characters of a state layer by layer, first the changed fields and then the
display fields. A layer touches the character of its name alone, and laying it a second time changes
nothing more.
-/

namespace VisualNovel

/-- The character with more fields laid over its own. -/
def Character.over (character : Character) (fields : List (String × Value)) : Character :=
  character.withFields (Dict.union character.fields fields)

theorem Character.over_over {character : Character} {fields : List (String × Value)}
    (sorted : Dict.Sorted character.fields) (distinct : Dict.Distinct fields) :
    (character.over fields).over fields = character.over fields :=
  congrArg character.withFields (sorted.union_union distinct)

namespace SaveCodec

variable {codec : SaveCodec} {state : StateTree} {game : SaveRecord} {id : String}

/-! ## Layers -/

theorem overlay_character? (state : StateTree) (id other : String)
    (fields : List (String × Value)) :
    (overlay state id fields).character? other =
      if id = other then (state.character? other).map (·.over fields)
      else state.character? other := by
  simp only [overlay, StateTree.updateCharacter?]
  cases found : state.character? id with
  | none =>
      split
      · rename_i same
        rw [← same, found]
        exact found
      · rfl
  | some character =>
      change Dict.get? (Dict.insert id (character.over fields) state.characters) other = _
      rw [Dict.get?_insert]
      split
      · rename_i same
        rw [← same, found]
        rfl
      · rfl

theorem overlay_sorted (sorted : Dict.Sorted state.characters) (id : String)
    (fields : List (String × Value)) : Dict.Sorted (overlay state id fields).characters := by
  simp only [overlay, StateTree.updateCharacter?]
  cases state.character? id with
  | none => exact sorted
  | some character => exact sorted.insert id _

/-- The state under layers of fields, each for one character. -/
def layered (state : StateTree) (layers : List (String × List (String × Value))) : StateTree :=
  layers.foldl (fun state layer => overlay state layer.1 layer.2) state

theorem layered_sorted (sorted : Dict.Sorted state.characters)
    (layers : List (String × List (String × Value))) :
    Dict.Sorted (layered state layers).characters := by
  simp only [layered]
  induction layers generalizing state with
  | nil => exact sorted
  | cons layer layers ih => exact ih (overlay_sorted sorted layer.1 layer.2)

/-- A character without a layer stays as it is. -/
theorem layered_absent {layers : List (String × List (String × Value))}
    (absent : Dict.get? layers id = none) :
    (layered state layers).character? id = state.character? id := by
  simp only [layered]
  induction layers generalizing state with
  | nil => rfl
  | cons layer layers ih =>
      simp only [Dict.get?] at absent
      split at absent
      · cases absent
      · rename_i different
        rw [List.foldl_cons, ih absent, overlay_character?, if_neg different]

/-- A character whose layers are all alike gets one of them. -/
theorem layered_present {layers : List (String × List (String × Value))}
    {fields : List (String × Value)} {character : Character}
    (alike : ∀ layer ∈ layers, layer.1 = id → layer.2 = fields) (distinct : Dict.Distinct fields)
    (sorted : Dict.Sorted character.fields) (found : state.character? id = some character)
    (present : (Dict.get? layers id).isSome = true) :
    (layered state layers).character? id = some (character.over fields) := by
  induction layers generalizing state character with
  | nil => cases present
  | cons layer layers ih =>
      have others : ∀ other ∈ layers, other.1 = id → other.2 = fields :=
        fun other member => alike other (List.mem_cons_of_mem layer member)
      have first := overlay_character? state layer.1 id layer.2
      change (layered (overlay state layer.1 layer.2) layers).character? id = _
      by_cases same : layer.1 = id
      · rw [if_pos same, alike layer (List.mem_cons_self ..) same, found, Option.map_some] at first
        cases later : Dict.get? layers id with
        | none =>
            rw [layered_absent later, alike layer (List.mem_cons_self ..) same]
            exact first
        | some again =>
            have stacked := ih others (sorted.union fields) first (by rw [later]; rfl)
            rw [alike layer (List.mem_cons_self ..) same, stacked,
              Character.over_over sorted distinct]
      · rw [if_neg same, found] at first
        apply ih others sorted first
        simpa [Dict.get?, same] using present

/-! ## Changed fields by character -/

/-- The changed fields of a character, when it has a baseline and differs from it. -/
def delta? (codec : SaveCodec) (id : String) (character : Character) : Option (Dict Value) :=
  (codec.baseline? id).bind fun baseline =>
    if (changedFields baseline character.fields).isEmpty then none
    else some (changedFields baseline character.fields)

theorem deltas_eq (codec : SaveCodec) (state : StateTree) :
    codec.deltas state = state.characters.filterMap fun entry =>
      (codec.delta? entry.1 entry.2).map fun changed => (entry.1, changed) := by
  simp only [deltas, delta?]
  congr 1
  funext entry
  obtain ⟨id, character⟩ := entry
  dsimp only
  cases codec.baseline? id with
  | none => rfl
  | some baseline =>
      simp only [Option.bind_some]
      split <;> rfl

theorem get?_deltas (sorted : Dict.Sorted state.characters) (codec : SaveCodec) (id : String) :
    Dict.get? (codec.deltas state) id = (state.character? id).bind (codec.delta? id) := by
  rw [deltas_eq]
  exact Dict.get?_filterMap sorted.distinct codec.delta? id

theorem deltas_sorted (sorted : Dict.Sorted state.characters) (codec : SaveCodec) :
    Dict.Sorted (codec.deltas state) := by
  rw [deltas_eq]
  exact sorted.filterMap codec.delta?

/-- A record is laid over a state as two rows of layers. -/
theorem overlaid_eq (game : SaveRecord) (state : StateTree) :
    overlaid game state = (layered (layered state game.deltas)
      (game.visible.map fun character => (character.id, character.displayFields))).setGlobal
        game.global := by
  simp only [overlaid, layered]
  rw [List.foldl_map]

end SaveCodec

end VisualNovel
