import Mathlib.Data.List.DropRight
import Mathlib.Data.List.TakeWhile
import VisualNovel.Text.Trim

/-!
# Trimmed and divided texts

A text is a run of blanks, the trimmed text and another run of blanks, and what stands between
blanks is told by where the blanks end. A text is divided as lists are, and no part has a separator.
-/

namespace VisualNovel.Text

variable {characters front back : List Char} {separator : Char}

/-! ## The front of a text -/

variable {accept : Char → Bool}

theorem takeWhile_append (inside : ∀ character ∈ front, accept character = true)
    (outside : ∀ character ∈ back.head?, accept character = false) :
    (front ++ back).takeWhile accept = front := by
  rw [List.takeWhile_append_of_pos inside]
  cases back with
  | nil => exact List.append_nil front
  | cons character back =>
      rw [List.takeWhile_cons_of_neg (by simp [outside character rfl]), List.append_nil]

theorem dropWhile_append (inside : ∀ character ∈ front, accept character = true)
    (outside : ∀ character ∈ back.head?, accept character = false) :
    (front ++ back).dropWhile accept = back := by
  rw [List.dropWhile_append_of_pos inside]
  cases back with
  | nil => rfl
  | cons character back => rw [List.dropWhile_cons_of_neg (by simp [outside character rfl])]

/-! ## Blanks at the ends -/

/-- The characters neither begin nor end with a blank. -/
structure Tight (characters : List Char) : Prop where
  first : ∀ character ∈ characters.head?, isBlank character = false
  last : ∀ character ∈ characters.getLast?, isBlank character = false

theorem tight_nil : Tight [] := by
  constructor <;>
  · intro character absent
    cases absent

/-- A text is tight when its ends are. -/
theorem Tight.around {middle : List Char} (left : Tight front) (right : Tight back)
    (some_front : front ≠ []) (some_back : back ≠ []) : Tight (front ++ (middle ++ back)) := by
  constructor
  · intro character member
    rw [List.head?_append_of_ne_nil front some_front] at member
    exact left.first character member
  · intro character member
    rw [← List.append_assoc, List.getLast?_append,
      Option.or_of_isSome (List.getLast?_isSome.2 some_back)] at member
    exact right.last character member

/-- Texts with others between them are tight together when each of them is. -/
theorem tight_intercalate (between : List Char) {parts : List (List Char)} (some_part : parts ≠ [])
    (each : ∀ part ∈ parts, Tight part ∧ part ≠ []) :
    Tight (between.intercalate parts) ∧ between.intercalate parts ≠ [] := by
  induction parts with
  | nil => exact absurd rfl some_part
  | cons first parts ih =>
      obtain ⟨⟨tight, proper⟩, each⟩ := List.forall_mem_cons.1 each
      cases parts with
      | nil => rw [List.intercalate_singleton]; exact ⟨tight, proper⟩
      | cons second parts =>
          obtain ⟨others, some_others⟩ := ih (List.cons_ne_nil second parts) each
          rw [List.intercalate_cons_cons, List.append_assoc]
          exact ⟨tight.around others proper some_others, List.append_ne_nil_of_left_ne_nil proper _⟩

/-- Leading blanks are dropped up to a character that is none. -/
theorem trimStart_append (blank : ∀ character ∈ front, isBlank character = true)
    (first : ∀ character ∈ characters.head?, isBlank character = false) :
    trimStart (front ++ characters) = characters :=
  dropWhile_append blank first

/-- Trailing blanks are dropped down to a character that is none. -/
theorem trimEnd_append (blank : ∀ character ∈ back, isBlank character = true)
    (last : ∀ character ∈ characters.getLast?, isBlank character = false) :
    trimEnd (characters ++ back) = characters := by
  have turned : trimStart (back.reverse ++ characters.reverse) = characters.reverse :=
    trimStart_append (fun character member => blank character (List.mem_reverse.1 member))
      (fun character member => last character (by rwa [List.head?_reverse] at member))
  simp only [trimStart, trimEnd] at turned ⊢
  rw [List.reverse_append, turned, List.reverse_reverse]

/-- Trimming finds the text between two runs of blanks. -/
theorem Tight.trim_between (tight : Tight characters)
    (before : ∀ character ∈ front, isBlank character = true)
    (after : ∀ character ∈ back, isBlank character = true) :
    trim (front ++ (characters ++ back)) = characters := by
  cases characters with
  | nil =>
      have blank : ∀ character ∈ front ++ back, isBlank character = true :=
        List.forall_mem_append.2 ⟨before, after⟩
      have nothing : trimStart (front ++ back) = [] := List.dropWhile_eq_nil_iff.2 blank
      rw [List.nil_append, trim, nothing]
      rfl
  | cons character rest =>
      rw [trim, trimStart_append before (by exact tight.first), trimEnd_append after tight.last]

/-- Characters with no blank at either end are left as they are. -/
theorem Tight.trim_eq_self (tight : Tight characters) : trim characters = characters := by
  have between : trim ([] ++ (characters ++ [])) = characters :=
    tight.trim_between (fun _ absent => by cases absent) (fun _ absent => by cases absent)
  rwa [List.nil_append, List.append_nil] at between

theorem tight_trim (characters : List Char) : Tight (trim characters) := by
  constructor
  · intro character first
    obtain ⟨rest, shape⟩ := List.rdropWhile_prefix isBlank (trimStart characters)
    have leading : (trimStart characters).head? = some character := by
      rw [← shape, List.head?_append]
      rw [show (trimStart characters).rdropWhile isBlank = trim characters from rfl,
        Option.mem_def.1 first]
      rfl
    have stopped := List.head?_dropWhile_not isBlank characters
    rw [show characters.dropWhile isBlank = trimStart characters from rfl, leading] at stopped
    exact stopped
  · intro character last
    obtain ⟨filled, rfl⟩ := List.mem_getLast?_eq_getLast last
    exact Bool.eq_false_iff.2 (List.rdropWhile_last_not isBlank _ filled)

theorem trim_trim (characters : List Char) : trim (trim characters) = trim characters :=
  (tight_trim characters).trim_eq_self

theorem exists_trimStart (characters : List Char) :
    ∃ front, (∀ character ∈ front, isBlank character = true) ∧
      characters = front ++ trimStart characters :=
  ⟨characters.takeWhile isBlank, fun _ => List.mem_takeWhile_imp,
    List.takeWhile_append_dropWhile.symm⟩

/-- A text stands between the blanks that trimming takes off. -/
theorem exists_trim (characters : List Char) :
    ∃ front back, (∀ character ∈ front, isBlank character = true) ∧
      (∀ character ∈ back, isBlank character = true) ∧
      characters = front ++ (trim characters ++ back) := by
  obtain ⟨front, blank, shape⟩ := exists_trimStart characters
  have ends : trim characters ++ (trimStart characters).rtakeWhile isBlank = trimStart characters :=
    List.rdropWhile_append_rtakeWhile
  refine ⟨front, (trimStart characters).rtakeWhile isBlank, blank,
    fun _ => List.mem_rtakeWhile_imp, ?_⟩
  rw [ends]
  exact shape

theorem mem_of_mem_trim {character : Char} (member : character ∈ trim characters) :
    character ∈ characters := by
  obtain ⟨front, back, -, -, shape⟩ := exists_trim characters
  rw [shape]
  exact List.mem_append_right front (List.mem_append_left back member)

/-- Nothing is left of blanks alone. -/
theorem trim_eq_nil_iff :
    trim characters = [] ↔ ∀ character ∈ characters, isBlank character = true := by
  constructor
  · intro nothing
    obtain ⟨front, back, before, after, shape⟩ := exists_trim characters
    rw [nothing] at shape
    rw [shape]
    exact List.forall_mem_append.2 ⟨before, after⟩
  · intro blank
    have between : trim (characters ++ ([] ++ [])) = [] :=
      tight_nil.trim_between blank (fun _ absent => by cases absent)
    rwa [List.append_nil, List.append_nil] at between

/-! ## Parts between separators -/

/-- Texts are divided as lists are. -/
theorem splitOn_eq (separator : Char) (characters : List Char) :
    splitOn separator characters = characters.splitOn separator := by
  induction characters with
  | nil => rfl
  | cons character rest ih =>
      rw [splitOn, List.splitOn_cons_eq_if_modifyHead, ih]
      simp only [beq_iff_eq]
      split
      · rfl
      · cases parts : rest.splitOn separator with
        | nil => exact absurd parts (List.splitOn_ne_nil separator rest)
        | cons part parts => rfl

theorem splitOn_append (front rest : List Char) :
    splitOn separator (front ++ separator :: rest) =
      splitOn separator front ++ splitOn separator rest := by
  simp only [splitOn_eq]
  exact List.splitOn_append_cons_of_beq front rest (beq_self_eq_true separator)

theorem splitOn_single (absent : separator ∉ characters) :
    splitOn separator characters = [characters] := by
  rw [splitOn_eq]
  exact List.splitOn_eq_singleton absent

/-- Text without separators at the end belongs to the last part. -/
theorem splitOn_append_last (front : List Char) {last : List Char} (undivided : separator ∉ last) :
    ∃ parts part, splitOn separator front = parts ++ [part] ∧
      splitOn separator (front ++ last) = parts ++ [part ++ last] := by
  induction front with
  | nil => exact ⟨[], [], rfl, splitOn_single undivided⟩
  | cons character front ih =>
      obtain ⟨parts, part, alone, followed⟩ := ih
      rw [List.cons_append, splitOn, splitOn, alone, followed]
      split
      · exact ⟨[] :: parts, part, rfl, rfl⟩
      · cases parts with
        | nil => exact ⟨[], character :: part, rfl, rfl⟩
        | cons first parts => exact ⟨(character :: first) :: parts, part, rfl, rfl⟩

theorem not_mem_of_mem_splitOn {part : List Char} (member : part ∈ splitOn separator characters) :
    separator ∉ part := by
  induction characters generalizing part with
  | nil =>
      cases List.mem_singleton.1 member
      exact List.not_mem_nil
  | cons character characters ih =>
      rw [splitOn] at member
      split at member
      · rcases List.mem_cons.1 member with rfl | member
        · exact List.not_mem_nil
        · exact ih member
      · rename_i different
        split at member
        · cases List.mem_singleton.1 member
          simpa using Ne.symm different
        · rename_i first parts shape
          rcases List.mem_cons.1 member with rfl | member
          · have inner : separator ∉ first := ih (shape ▸ List.mem_cons_self ..)
            simpa [inner] using Ne.symm different
          · exact ih (shape ▸ List.mem_cons_of_mem first member)

theorem mem_of_mem_splitOn {other : Char} {part : List Char}
    (member : part ∈ splitOn separator characters) (inside : other ∈ part) :
    other ∈ characters := by
  induction characters generalizing part with
  | nil =>
      cases List.mem_singleton.1 member
      cases inside
  | cons character characters ih =>
      rw [splitOn] at member
      split at member
      · rcases List.mem_cons.1 member with rfl | member
        · cases inside
        · exact List.mem_cons_of_mem character (ih member inside)
      · split at member
        · cases List.mem_singleton.1 member
          exact List.mem_cons.2 (.inl (List.mem_singleton.1 inside))
        · rename_i first parts shape
          rcases List.mem_cons.1 member with rfl | member
          · rcases List.mem_cons.1 inside with rfl | inside
            · exact List.mem_cons_self ..
            · exact List.mem_cons_of_mem character (ih (shape ▸ List.mem_cons_self ..) inside)
          · exact List.mem_cons_of_mem character
              (ih (shape ▸ List.mem_cons_of_mem first member) inside)

end VisualNovel.Text
