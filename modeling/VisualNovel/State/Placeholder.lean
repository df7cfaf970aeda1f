import VisualNovel.State.Tree

/-!
# Placeholders in texts

A placeholder is a path in braces. The innermost braces count, so a brace inside opens a new
placeholder. Substitution is one pass: each placeholder that reads to a value becomes its text, and
all else stays as it is.
-/

namespace VisualNovel

/-- A piece of a text with placeholders. -/
inductive TextPiece where
  /-- Characters that stand for themselves. -/
  | plain (characters : List Char)
  /-- A path in braces. -/
  | placeholder (path : List Char)
  deriving DecidableEq

namespace TextPiece

/-- Divides a text into pieces. The first argument holds the characters, in reverse, behind a brace
that is still open. -/
def split : Option (List Char) → List Char → List TextPiece
  | none, [] => []
  | none, character :: rest =>
    if character = '{' then split (some []) rest else .plain [character] :: split none rest
  | some reversed, [] => [.plain ('{' :: reversed.reverse)]
  | some reversed, character :: rest =>
    if character = '{' then .plain ('{' :: reversed.reverse) :: split (some []) rest
    else if character = '}' then
      if reversed.isEmpty then .plain ['{', '}'] :: split none rest
      else .placeholder reversed.reverse :: split none rest
    else split (some (character :: reversed)) rest

/-- The characters of a piece as they stand in the text. -/
def source : TextPiece → List Char
  | .plain characters => characters
  | .placeholder path => '{' :: path ++ ['}']

/-- The pieces make up the text they were divided from. -/
theorem flatMap_source_split (open? : Option (List Char)) (text : List Char) :
    (split open? text).flatMap source =
      (open?.elim [] fun reversed => '{' :: reversed.reverse) ++ text := by
  induction text generalizing open? with
  | nil => cases open? <;> simp [split, source]
  | cons character rest ih =>
    cases open? with
    | none => simp only [split]; split <;> simp_all [source]
    | some reversed =>
      simp only [split]
      split
      · simp_all [source]
      · split
        · split <;> simp_all [source]
        · simp_all

/-- The text of a piece over a state. -/
def render (state : StateTree) : TextPiece → String
  | .plain characters => String.ofList characters
  | .placeholder path =>
    match state.read? (String.ofList path) with
    | some value => value.display
    | none => String.ofList ('{' :: path ++ ['}'])

end TextPiece

namespace StateTree

/-- The text with its placeholders replaced. -/
def substitute (state : StateTree) (text : String) : String :=
  String.join ((TextPiece.split none text.toList).map (TextPiece.render state))

end StateTree

end VisualNovel
