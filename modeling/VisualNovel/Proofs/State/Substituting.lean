import Mathlib.Data.List.DropRight
import VisualNovel.Proofs.State.Addressing
import VisualNovel.Proofs.Story.Telling

/-!
# Substitution is one pass

The placeholders of a text are the paths in braces that stand in it, and no two of them overlap. A
text is divided at a placeholder into what stands in front of it and what stands behind it, and each
of these is substituted on its own. So what a value brings into a text is never looked at again.
-/

namespace VisualNovel

/-! ## Blanks around a path -/

/-- Blanks around a path count for nothing. -/
theorem StateTree.read?_trimmed (state : StateTree) (text : String) :
    state.read? (Text.trimmed text) = state.read? text := by
  have same : Text.trim (Text.trimmed text).toList = Text.trim text.toList := by
    rw [Text.trimmed, String.toList_ofList, Text.trim_trim]
  have parsed : Path.parse? (Text.trimmed text) = Path.parse? text := by
    simp only [Path.parse?]
    rw [same]
  simp only [read?]
  rw [parsed]

namespace TextPiece

variable {text before path after characters : List Char} {position : Nat}

/-! ## Placeholders of a text -/

/-- The characters can be a path in braces: there is at least one, and none of them is a brace. -/
structure IsPath (characters : List Char) : Prop where
  proper : characters ≠ []
  unopened : '{' ∉ characters
  unclosed : '}' ∉ characters

/-- At a position of a text stands a path in braces. -/
structure Stands (text : List Char) (position : Nat) (path : List Char) : Prop where
  isPath : IsPath path
  occurs : (placeholder path).source <+: text.drop position

theorem length_source_placeholder (path : List Char) :
    (placeholder path).source.length = path.length + 2 := by
  simp [source]

/-- A placeholder stands between the characters in front of it and those behind it. -/
theorem stands_iff : Stands text position path ↔
    IsPath path ∧ ∃ before after,
      text = before ++ (placeholder path).source ++ after ∧ before.length = position := by
  constructor
  · rintro ⟨isPath, after, shape⟩
    have within : position ≤ text.length := by
      have long := congrArg List.length shape
      rw [List.length_append, length_source_placeholder, List.length_drop] at long
      omega
    refine ⟨isPath, text.take position, after, ?_, List.length_take_of_le within⟩
    rw [List.append_assoc, shape, List.take_append_drop]
  · rintro ⟨isPath, before, after, rfl, rfl⟩
    refine ⟨isPath, after, ?_⟩
    rw [List.append_assoc, List.drop_left]

/-! ## Dividing a text -/

/-- A brace opens anew: what is open in front of it ends there. -/
theorem split_append_brace (open? : Option (List Char)) (before rest : List Char) :
    split open? (before ++ '{' :: rest) = split open? before ++ split (some []) rest := by
  induction before generalizing open? with
  | nil => cases open? <;> simp [split]
  | cons character before ih =>
      cases open? with
      | none =>
          simp only [List.cons_append, split]
          split <;> simp [ih]
      | some reversed =>
          simp only [List.cons_append, split]
          split
          · simp [ih]
          · split
            · split <;> simp [ih]
            · exact ih _

/-- Characters without braces are gathered up to the brace that closes them. -/
theorem split_path (unopened : '{' ∉ path) (unclosed : '}' ∉ path) (reversed : List Char)
    (some_path : reversed.reverse ++ path ≠ []) (after : List Char) :
    split (some reversed) (path ++ '}' :: after) =
      .placeholder (reversed.reverse ++ path) :: split none after := by
  induction path generalizing reversed with
  | nil =>
      rw [List.append_nil] at some_path ⊢
      have filled : reversed.isEmpty = false := by simpa using some_path
      simp [split, filled]
  | cons character path ih =>
      rw [List.mem_cons, not_or] at unopened unclosed
      have gathered : (character :: reversed).reverse ++ path =
          reversed.reverse ++ character :: path := by simp
      rw [← gathered] at some_path ⊢
      rw [List.cons_append, split, if_neg (Ne.symm unopened.1), if_neg (Ne.symm unclosed.1)]
      exact ih unopened.2 unclosed.2 _ some_path

/-- A text is divided at each of its placeholders. All that is said of placeholders follows from
this equation. -/
theorem split_placeholder (isPath : IsPath path) (before after : List Char) :
    split none (before ++ (placeholder path).source ++ after) =
      split none before ++ .placeholder path :: split none after := by
  have shape : before ++ (placeholder path).source ++ after =
      before ++ '{' :: (path ++ '}' :: after) := by
    simp [source]
  rw [shape, split_append_brace, split_path isPath.unopened isPath.unclosed [] isPath.proper]
  rfl

/-- Only paths are gathered. -/
theorem isPath_of_mem_split {open? : Option (List Char)}
    (unbraced : ∀ reversed ∈ open?, '{' ∉ reversed ∧ '}' ∉ reversed)
    (member : .placeholder path ∈ split open? text) : IsPath path := by
  induction text generalizing open? with
  | nil => cases open? <;> simp [split] at member
  | cons character text ih =>
      have fresh : ∀ reversed ∈ some [], '{' ∉ reversed ∧ '}' ∉ reversed := by simp
      have closed : ∀ reversed ∈ (none : Option (List Char)), '{' ∉ reversed ∧ '}' ∉ reversed :=
        by simp
      cases open? with
      | none =>
          simp only [split] at member
          split at member
          · exact ih fresh member
          · exact ih closed (by simpa using member)
      | some reversed =>
          obtain ⟨unopened, unclosed⟩ := unbraced reversed rfl
          simp only [split] at member
          split at member
          · exact ih fresh (by simpa using member)
          · rename_i other
            split at member
            · split at member
              · exact ih closed (by simpa using member)
              · rename_i filled
                rcases List.mem_cons.1 member with same | later
                · cases same
                  exact ⟨by simpa using filled, by simpa using unopened, by simpa using unclosed⟩
                · exact ih closed later
            · rename_i another
              refine ih ?_ member
              rintro _ ⟨⟩
              simp [unopened, unclosed, Ne.symm other, Ne.symm another]

/-- Behind as many characters as the position says comes a piece with the path. -/
def Places (pieces : List TextPiece) (position : Nat) (path : List Char) : Prop :=
  ∃ before after, pieces = before ++ .placeholder path :: after ∧
    (before.flatMap source).length = position

/-- The placeholders of a text are the pieces of that kind that it is divided into. -/
theorem stands_iff_split : Stands text position path ↔ Places (split none text) position path := by
  rw [stands_iff]
  constructor
  · rintro ⟨isPath, before, after, rfl, rfl⟩
    exact ⟨_, _, split_placeholder isPath before after,
      congrArg List.length (flatMap_source_split none before)⟩
  · rintro ⟨before, after, divided, rfl⟩
    have member : .placeholder path ∈ split none text := by
      rw [divided]
      exact List.mem_append_right _ (List.mem_cons_self ..)
    refine ⟨isPath_of_mem_split (by simp) member, before.flatMap source, after.flatMap source,
      ?_, rfl⟩
    have whole := flatMap_source_split none text
    rw [divided] at whole
    simpa using whole.symm

theorem Stands.mem_split (stands : Stands text position path) :
    .placeholder path ∈ split none text := by
  obtain ⟨before, after, divided, -⟩ := stands_iff_split.1 stands
  rw [divided]
  exact List.mem_append_right _ (List.mem_cons_self ..)

/-- Two placeholders of a text are the same one, or the one ends before the other begins. -/
theorem Stands.apart {left right : Nat} {other : List Char} (first : Stands text left path)
    (second : Stands text right other) :
    left = right ∧ path = other ∨ left + (path.length + 2) ≤ right ∨
      right + (other.length + 2) ≤ left := by
  obtain ⟨before, after, divided, rfl⟩ := stands_iff_split.1 first
  obtain ⟨front, back, same, rfl⟩ := stands_iff_split.1 second
  rw [divided] at same
  rcases List.append_eq_append_iff.1 same with ⟨between, rfl, shape⟩ | ⟨between, rfl, shape⟩
  · cases between with
    | nil =>
        left
        cases shape
        simp
    | cons piece between =>
        right
        left
        cases shape
        simp only [List.flatMap_append, List.flatMap_cons, List.length_append,
          length_source_placeholder]
        omega
  · cases between with
    | nil =>
        left
        cases shape
        simp
    | cons piece between =>
        right
        right
        cases shape
        simp only [List.flatMap_append, List.flatMap_cons, List.length_append,
          length_source_placeholder]
        omega

/-! ## Replacing the pieces -/

/-- What a piece becomes: a path that leads to a value becomes the text of the value, and every other
piece stays as it stands in the text. -/
def replaced (state : StateTree) : TextPiece → List Char
  | .plain characters => characters
  | .placeholder path =>
    match state.read? (Text.trimmed (String.ofList path)) with
    | some value => value.display.toList
    | none => (placeholder path).source

theorem render_eq (state : StateTree) (piece : TextPiece) :
    piece.render state = String.ofList (piece.replaced state) := by
  cases piece with
  | plain characters => rfl
  | placeholder path =>
      simp only [render, replaced]
      rw [StateTree.read?_trimmed]
      cases state.read? (String.ofList path) with
      | none => rfl
      | some value => exact (String.ofList_toList ..).symm

theorem replaced_placeholder_of_none {state : StateTree}
    (lost : state.read? (Text.trimmed (String.ofList path)) = none) :
    (placeholder path).replaced state = (placeholder path).source := by
  simp only [replaced]
  rw [lost]

end TextPiece

open TextPiece

namespace StateTree

theorem toList_substitute (state : StateTree) (text : String) :
    (state.substitute text).toList = (split none text.toList).flatMap (replaced state) := by
  simp only [substitute]
  generalize split none text.toList = pieces
  induction pieces with
  | nil => rfl
  | cons piece pieces ih =>
      rw [List.map_cons, String.join_cons, String.toList_append, ih, render_eq,
        String.toList_ofList, List.flatMap_cons]

/-- What stands in front of a placeholder and what stands behind it are substituted on their own. -/
theorem substitute_around (state : StateTree) {path : List Char} (isPath : IsPath path)
    (before after : String) :
    state.substitute (before ++ String.ofList (placeholder path).source ++ after) =
      state.substitute before ++ String.ofList ((placeholder path).replaced state) ++
        state.substitute after := by
  rw [← String.toList_inj]
  simp only [String.toList_append, toList_substitute, String.toList_ofList]
  rw [split_placeholder isPath, List.flatMap_append, List.flatMap_cons, List.append_assoc]

/-- Substitution is one pass over a text. Its placeholders, the paths in braces that stand in it, do
not overlap. The text is divided at all of them, and each becomes the text of the value that its path
leads to, or stays as it stands, while all other characters are copied in their order. What stands in
front of a placeholder and behind it is substituted as if it stood alone, so nothing in the text of a
value is taken for a placeholder. Where no path leads to a value the text stays as it is. -/
theorem substitute_simultaneous (state : StateTree) (text : String) :
    (∀ left right path other, Stands text.toList left path → Stands text.toList right other →
      left = right ∧ path = other ∨ left + (path.length + 2) ≤ right ∨
        right + (other.length + 2) ≤ left) ∧
    (∃ pieces : List TextPiece, pieces.flatMap source = text.toList ∧
      (∀ position path, Stands text.toList position path ↔ Places pieces position path) ∧
      (state.substitute text).toList = pieces.flatMap (replaced state)) ∧
    (∀ before path after, IsPath path →
      text = before ++ String.ofList (placeholder path).source ++ after →
      state.substitute text =
        state.substitute before ++ String.ofList ((placeholder path).replaced state) ++
          state.substitute after) ∧
    ((∀ position path, Stands text.toList position path →
        state.read? (Text.trimmed (String.ofList path)) = none) →
      state.substitute text = text) := by
  have whole : (split none text.toList).flatMap source = text.toList :=
    flatMap_source_split none text.toList
  refine ⟨fun _ _ _ _ => Stands.apart,
    ⟨split none text.toList, whole, fun _ _ => stands_iff_split, toList_substitute state text⟩,
    ?_, ?_⟩
  · rintro before path after isPath rfl
    exact substitute_around state isPath before after
  · intro lost
    have kept : ∀ piece ∈ split none text.toList, piece.replaced state = piece.source := by
      intro piece member
      cases piece with
      | plain characters => rfl
      | placeholder path =>
          obtain ⟨before, after, divided⟩ := List.append_of_mem member
          exact replaced_placeholder_of_none
            (lost _ path (stands_iff_split.2 ⟨before, after, divided, rfl⟩))
    rw [← String.toList_inj, toList_substitute, List.flatMap_congr kept, whole]

/-- A state in which a player has typed a placeholder as a name. -/
def typedState : StateTree :=
  ⟨[], [("gold", .int 7), ("name", .text "{global.gold}")], 0⟩

/-- The typed placeholder is not expanded, the inner one of two braces is, and a path that leads
nowhere stays. -/
theorem substitute_simultaneous_typed :
    Stands "{global.name} {x { global.gold }}".toList 0 "global.name".toList ∧
      Stands "{global.name} {x { global.gold }}".toList 17 " global.gold ".toList ∧
      0 + ("global.name".toList.length + 2) ≤ 17 ∧
      typedState.substitute "{global.name} {x { global.gold }}" =
        "" ++ "{global.gold}" ++ " {x 7}" ∧
      typedState.substitute "{global.lost} {} \x7b" = "{global.lost} {} \x7b" := by
  obtain ⟨apart, -, around, -⟩ :=
    substitute_simultaneous typedState "{global.name} {x { global.gold }}"
  have first : Stands "{global.name} {x { global.gold }}".toList 0 "global.name".toList :=
    ⟨⟨by decide, by decide, by decide⟩, by decide⟩
  have second : Stands "{global.name} {x { global.gold }}".toList 17 " global.gold ".toList :=
    ⟨⟨by decide, by decide, by decide⟩, by decide⟩
  refine ⟨first, second, ?_, ?_, ?_⟩
  · rcases apart _ _ _ _ first second with ⟨same, -⟩ | earlier | later
    · cases same
    · exact earlier
    · omega
  · have name : (placeholder "global.name".toList).replaced typedState = "{global.gold}".toList := by
      decide +kernel
    have nothing : typedState.substitute "" = "" := by decide +kernel
    have rest : typedState.substitute " {x { global.gold }}" = " {x 7}" := by decide +kernel
    rw [around "" _ " {x { global.gold }}" first.isPath (by decide), name, nothing, rest]
    rfl
  · obtain ⟨-, -, -, unresolved⟩ := substitute_simultaneous typedState "{global.lost} {} \x7b"
    apply unresolved
    intro position path stands
    have pieces : split none "{global.lost} {} \x7b".toList =
        [.placeholder "global.lost".toList, .plain [' '], .plain ['{', '}'], .plain [' '],
          .plain ['{']] := by
      decide
    have member := stands.mem_split
    rw [pieces] at member
    have only : path = "global.lost".toList := by simpa using member
    rw [only]
    decide +kernel

end StateTree

end VisualNovel
