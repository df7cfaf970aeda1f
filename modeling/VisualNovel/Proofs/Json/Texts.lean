import VisualNovel.Json.Reader
import VisualNovel.Json.Writer

/-!
# Texts in documents

A text in quotation marks is read back character by character, up to its closing mark. Each character
was written as itself or as an escape, and one step of the reader takes either back.
-/

namespace VisualNovel.Json

/-! ## Blanks -/

theorem skipSpace_append {blanks : List Char} (blank : ∀ character ∈ blanks, isSpace character = true)
    (rest : List Char) : skipSpace (blanks ++ rest) = skipSpace rest :=
  List.dropWhile_append_of_pos blank

theorem skipSpace_cons {character : Char} (solid : isSpace character = false) (rest : List Char) :
    skipSpace (character :: rest) = character :: rest := by
  simp [skipSpace, solid]

/-! ## Quotation marks -/

theorem toList_quoted (text : String) :
    (quoted text).toList = '"' :: (text.toList.flatMap escaped ++ ['"']) := by
  simp [quoted]

theorem hexValue?_hexDigit (value : Nat) : hexValue? (hexDigit value) = some (value % 16) := by
  have each : ∀ digit < 16, hexValue? (Nat.digitChar digit) = some digit := by decide
  exact each (value % 16) (Nat.mod_lt _ (by decide))

/-- The escape of a control character stands for its number. -/
theorem readHex_escape {value : Nat} (small : value < 32) (rest : List Char) :
    readHex ('0' :: '0' :: hexDigit (value / 16) :: hexDigit value :: rest) =
      some (value, rest) := by
  have zero : hexValue? '0' = some 0 := by decide
  have parts : 16 * (value / 16 % 16) + value % 16 = value := by omega
  simp only [readHex, zero, hexValue?_hexDigit, Option.bind_eq_bind, Option.bind_some, parts]
  simp

/-- A written character is read back in one step. -/
theorem readText_escaped (steps : Nat) (reversed rest : List Char) (character : Char) :
    readText (steps + 1) (some reversed) (escaped character ++ rest) =
      readText steps (some (character :: reversed)) rest := by
  simp only [escaped]
  repeat' split
  all_goals first | (subst_vars; rfl) | skip
  · rename_i small
    have escape := readHex_escape small rest
    have unit : character.toNat < 0xD800 := by omega
    simp only [List.cons_append, List.nil_append, readText, escape]
    simp [unit, Draft.push, Char.ofNat_toNat]
  · rename_i quotation backslash _ _ _ _ _ large
    simp only [List.cons_append, List.nil_append]
    rw [readText.eq_def]
    simp only
    split
    · contradiction
    · rename_i shape
      cases shape
      contradiction
    · rename_i shape
      cases shape
      contradiction
    · rename_i shape
      cases shape
      contradiction
    · rename_i shape
      cases shape
      simp [backslash, large, Draft.push]

/-- A written text is read back up to its closing quotation mark. -/
theorem readText_flatMap {steps : Nat} {characters : List Char} (enough : characters.length < steps)
    (reversed rest : List Char) :
    readText steps (some reversed) (characters.flatMap escaped ++ '"' :: rest) =
      some (some (characters.reverse ++ reversed), rest) := by
  induction characters generalizing steps reversed with
  | nil =>
      obtain ⟨steps, rfl⟩ := Nat.exists_eq_add_of_lt enough
      simp [readText]
  | cons character characters ih =>
      cases steps with
      | zero => cases enough
      | succ steps =>
          rw [List.flatMap_cons, List.append_assoc, readText_escaped,
            ih (Nat.lt_of_succ_lt_succ enough)]
          simp

theorem length_le_flatMap_escaped (characters : List Char) :
    characters.length ≤ (characters.flatMap escaped).length := by
  induction characters with
  | nil => exact Nat.le_refl 0
  | cons character characters ih =>
      have some_text : 1 ≤ (escaped character).length := by
        simp only [escaped]
        repeat' split
        all_goals simp
      simp only [List.flatMap_cons, List.length_append, List.length_cons]
      omega

/-- A text in quotation marks is read back. -/
theorem readQuoted_quoted (text : String) (rest : List Char) :
    readQuoted (text.toList.flatMap escaped ++ '"' :: rest) = some (some text, rest) := by
  have enough := length_le_flatMap_escaped text.toList
  simp only [readQuoted]
  rw [readText_flatMap (by simp only [List.length_append]; omega)]
  simp

end VisualNovel.Json
