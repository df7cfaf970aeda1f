import VisualNovel.Text.CharacterClass

/-!
# Trimming and splitting

Texts are cut on lists of characters: blanks are dropped at both ends, and a text is divided at a
separator or at runs of blanks. `splitOn_ne_nil` says that a division has at least one part.
-/

namespace VisualNovel.Text

/-- The characters after the leading blanks. -/
def trimStart (characters : List Char) : List Char :=
  characters.dropWhile isBlank

/-- The characters before the trailing blanks. -/
def trimEnd (characters : List Char) : List Char :=
  (characters.reverse.dropWhile isBlank).reverse

/-- The characters without blanks at either end. -/
def trim (characters : List Char) : List Char :=
  trimEnd (trimStart characters)

/-- A text without blanks at either end. -/
def trimmed (text : String) : String :=
  String.ofList (trim text.toList)

/-- The parts between the separators; a text without one is a single part. -/
def splitOn (separator : Char) : List Char → List (List Char)
  | [] => [[]]
  | character :: rest =>
    if character = separator then [] :: splitOn separator rest
    else
      match splitOn separator rest with
      | [] => [[character]]
      | part :: parts => (character :: part) :: parts

theorem splitOn_ne_nil (separator : Char) (characters : List Char) :
    splitOn separator characters ≠ [] := by
  induction characters with
  | nil => simp [splitOn]
  | cons character rest ih =>
    rw [splitOn]
    split
    · simp
    · split <;> simp

/-- The non-empty runs of characters that are not blank. -/
def words (characters : List Char) : List (List Char) :=
  ((characters.splitBy fun left right => isBlank left == isBlank right).filter fun run =>
    run.any fun character => !isBlank character)

/-- The characters that follow `lead`, when the text begins with it. -/
def afterPrefix : (lead characters : List Char) → Option (List Char)
  | [], characters => some characters
  | _ :: _, [] => none
  | expected :: lead, character :: characters =>
    if expected = character then afterPrefix lead characters else none

@[simp] theorem afterPrefix_append (lead rest : List Char) :
    afterPrefix lead (lead ++ rest) = some rest := by
  induction lead with
  | nil => rfl
  | cons character lead ih => simp [afterPrefix, ih]

/-- Whether `part` occurs somewhere in the characters. -/
def containsPart (part : List Char) : List Char → Bool
  | [] => part.isEmpty
  | character :: rest =>
    (afterPrefix part (character :: rest)).isSome || containsPart part rest

/-- The value of an unsigned decimal numeral made of at least one digit. -/
def digits? (characters : List Char) : Option Nat :=
  if characters.isEmpty || !characters.all Char.isDigit then none
  else some (characters.foldl (fun value digit => 10 * value + (digit.toNat - '0'.toNat)) 0)

/-- An unsigned numeral below the bound; a plus sign may stand in front. -/
def boundedNumeral? (bound : Nat) (characters : List Char) : Option Nat :=
  let unsigned :=
    match characters with
    | '+' :: rest => rest
    | _ => characters
  (digits? unsigned).filter (· < bound)

/-- Positions and counts are words of 64 bits. -/
def wordBound : Nat := 18446744073709551616

end VisualNovel.Text
