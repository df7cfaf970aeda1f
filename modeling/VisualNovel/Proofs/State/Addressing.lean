import VisualNovel.Proofs.Path
import VisualNovel.Proofs.State.Reading

/-!
# Paths to the fields of a character

A name that has neither blanks at its ends nor dots and brackets stands for itself in a path. So the
path of a field leads to the character under its identifier, when the identifier is such a name.
-/

namespace VisualNovel

namespace Path

/-- The part that is a key alone. -/
def Part.ofKey {name : String} (isKey : Segment.IsKey name) : Part :=
  ⟨name, [], isKey, fun _ absent => by cases absent⟩

/-- The path of three keys. -/
theorem parse?_keys {space id field : String} (inSpace : Segment.IsKey space)
    (inId : Segment.IsKey id) (inField : Segment.IsKey field) :
    ∃ path, parse? (space ++ "." ++ id ++ "." ++ field) = some path ∧
      path.segments = [.key space, .key id, .key field] := by
  have shape : written [.ofKey inSpace, .ofKey inId, .ofKey inField] =
      space ++ "." ++ id ++ "." ++ field := by
    rw [← String.toList_inj, toList_written]
    simp [Part.toList_display, Part.ofKey, List.intercalate_cons_cons]
  rw [← shape, parse?_of_written (List.cons_ne_nil _ _)]
  exact ⟨_, rfl, rfl⟩

end Path

namespace StateTree

variable {id name : String}

theorem character_isKey : Segment.IsKey "character" := by
  decide +kernel

/-- The path of a field that is not derived reads the field of the character. -/
theorem read?_field (state : StateTree) (inId : Segment.IsKey id) (inName : Segment.IsKey name)
    (authored : name ∉ derivedKeys) :
    state.read? ("character." ++ id ++ "." ++ name) =
      (state.character? id).bind fun character => Dict.get? character.fields name := by
  obtain ⟨path, parsed, segments⟩ := Path.parse?_keys character_isKey inId inName
  have sought : "character" ++ "." ++ id ++ "." ++ name = "character." ++ id ++ "." ++ name := rfl
  rw [sought] at parsed
  cases found : state.character? id with
  | none =>
      have absent : Dict.contains state.characters id = false := by
        simp only [Dict.contains]
        rw [show Dict.get? state.characters id = none from found]
        rfl
      have lost : state.root? path = none := by
        simp only [root?]
        rw [segments]
        simp [absent]
      simp only [read?]
      rw [parsed]
      simp only [Option.bind_eq_bind, Option.bind_some]
      rw [lost]
      rfl
  | some character =>
      have present : Dict.contains state.characters id = true := by
        simp only [Dict.contains]
        rw [show Dict.get? state.characters id = some character from found]
        rfl
      have asked : state.root? path = some (.character id, .key name, []) := by
        simp only [root?]
        rw [segments]
        simp [present]
      have rooted : state.rootMap? (.character id) = some character.fields := by
        simp only [rootMap?]
        rw [found]
        rfl
      have plain : isDerived (.character id) (.key name) = false := by
        simpa [isDerived] using authored
      have asks : state.Asks ("character." ++ id ++ "." ++ name) (.character id) (.key name) []
          character.fields := by
        refine ⟨?_, plain, rooted⟩
        rw [parsed]
        exact asked
      rw [asks.read?_eq, Value.lookup?_cons, Option.bind_some]
      exact Option.bind_fun_some _

end StateTree

end VisualNovel
