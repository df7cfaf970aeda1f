import Mathlib.Data.List.TakeWhile
import VisualNovel.Proofs.Json.Texts

/-!
# Numbers in documents

A number is read to its last character, whatever follows, as long as that cannot be part of a number.
Words are written in digits and read back as they were written. Whether any other number is read back
depends on its digits alone, not on the document around it.
-/

namespace VisualNovel.Json

/-! ## The end of a number -/

/-- What follows cannot be part of a number. -/
def Ends (rest : List Char) : Prop :=
  ∀ character ∈ rest.head?,
    character.isDigit = false ∧ character ≠ '.' ∧ character ≠ 'e' ∧ character ≠ 'E'

theorem ends_nil : Ends [] := by
  intro character member
  cases member

theorem ends_cons {character : Char} {rest : List Char} (digit : character.isDigit = false)
    (others : character ≠ '.' ∧ character ≠ 'e' ∧ character ≠ 'E') : Ends (character :: rest) := by
  intro other member
  cases member
  exact ⟨digit, others⟩

variable {characters tail rest : List Char}

theorem takeWhile_ends (ends : Ends rest) : rest.takeWhile Char.isDigit = [] := by
  cases rest with
  | nil => rfl
  | cons character rest => simp [(ends character rfl).1]

theorem dropWhile_ends (ends : Ends rest) : rest.dropWhile Char.isDigit = rest := by
  cases rest with
  | nil => rfl
  | cons character rest => simp [(ends character rfl).1]

theorem takeWhile_append_ends (characters : List Char) (ends : Ends rest) :
    (characters ++ rest).takeWhile Char.isDigit = characters.takeWhile Char.isDigit := by
  rw [List.takeWhile_append, takeWhile_ends ends, List.append_nil]
  split
  · rename_i whole
    exact (List.takeWhile_prefix _).eq_of_length whole |>.symm
  · rfl

theorem dropWhile_append_ends (characters : List Char) (ends : Ends rest) :
    (characters ++ rest).dropWhile Char.isDigit = characters.dropWhile Char.isDigit ++ rest := by
  rw [List.dropWhile_append, dropWhile_ends ends]
  split
  · rename_i emptied
    rw [List.isEmpty_iff.1 emptied, List.nil_append]
  · rfl

theorem readFraction_none (point : ∀ character ∈ characters.head?, character ≠ '.') :
    readFraction characters = some ([], characters) := by
  simp only [readFraction]
  split
  · exact absurd rfl (point '.' rfl)
  · rfl

theorem readFraction_append (ends : Ends rest) {fraction : List Char}
    (read : readFraction characters = some (fraction, tail)) :
    readFraction (characters ++ rest) = some (fraction, tail ++ rest) := by
  cases characters with
  | nil =>
      cases read
      exact readFraction_none fun character first => (ends character first).2.1
  | cons character characters =>
      by_cases point : character = '.'
      · subst point
        simp only [readFraction, List.cons_append, takeWhile_append_ends characters ends,
          dropWhile_append_ends characters ends] at read ⊢
        split at read
        · cases read
        · rename_i digits
          cases read
          simp [digits]
      · have pointless : ∀ rest, readFraction (character :: rest) = some ([], character :: rest) :=
          fun rest => readFraction_none (by simp [point])
        rw [pointless] at read
        cases read
        exact pointless (characters ++ rest)

/-- A sign is split off what begins with it, whatever follows. -/
theorem splitSign_append (some_text : characters ≠ []) (rest : List Char) :
    Decimal.splitSign (characters ++ rest) =
      ((Decimal.splitSign characters).1, (Decimal.splitSign characters).2 ++ rest) := by
  cases characters with
  | nil => exact absurd rfl some_text
  | cons character characters =>
      simp only [List.cons_append, Decimal.splitSign]
      split <;> simp_all

theorem readExponent_append (ends : Ends rest) {exponent : Option Int}
    (read : readExponent characters = some (exponent, tail)) :
    readExponent (characters ++ rest) = some (exponent, tail ++ rest) := by
  cases characters with
  | nil =>
      cases read
      cases rest with
      | nil => rfl
      | cons character rest =>
          have mark := (ends character rfl).2.2
          simp [readExponent, mark]
  | cons character characters =>
      simp only [List.cons_append, readExponent] at read ⊢
      split at read
      · have some_text : characters ≠ [] := by
          rintro rfl
          cases read
        rw [splitSign_append some_text]
        simp only [takeWhile_append_ends _ ends, dropWhile_append_ends _ ends]
        split at read
        · cases read
        · rename_i digits
          cases read
          simp [*]
      · rename_i mark
        cases read
        simp [mark]

/-- What a number is behind its sign. -/
def readMagnitude (negative : Bool) (unsigned : List Char) : Option (Json × List Char) := do
  let whole := unsigned.takeWhile Char.isDigit
  if whole.isEmpty || (whole.head? = some '0' && whole.length > 1) then none
  let (fraction, afterFraction) ← readFraction (unsigned.dropWhile Char.isDigit)
  let (exponent, rest) ← readExponent afterFraction
  some (numberValue negative whole fraction exponent, rest)

theorem readNumber_minus (characters : List Char) :
    readNumber ('-' :: characters) = readMagnitude true characters := rfl

theorem readNumber_plain (unsigned : ∀ character ∈ characters.head?, character ≠ '-') :
    readNumber characters = readMagnitude false characters := by
  simp only [readNumber]
  split
  · exact absurd rfl (unsigned '-' rfl)
  · rfl

theorem readMagnitude_append (ends : Ends rest) {negative : Bool} {document : Json}
    (read : readMagnitude negative characters = some (document, tail)) :
    readMagnitude negative (characters ++ rest) = some (document, tail ++ rest) := by
  simp only [readMagnitude] at read ⊢
  rw [takeWhile_append_ends characters ends, dropWhile_append_ends characters ends]
  split at read
  · cases read
  · rename_i proper
    obtain ⟨⟨fraction, afterFraction⟩, first, read⟩ := Option.bind_eq_some_iff.1 read
    obtain ⟨⟨exponent, afterExponent⟩, second, read⟩ := Option.bind_eq_some_iff.1 read
    rw [if_neg proper, readFraction_append ends first]
    simp only [Option.bind_eq_bind, Option.bind_some, readExponent_append ends second]
    cases read
    rfl

/-- A number is read up to its last character, whatever follows. -/
theorem readNumber_append (ends : Ends rest) {document : Json}
    (read : readNumber characters = some (document, tail)) :
    readNumber (characters ++ rest) = some (document, tail ++ rest) := by
  cases characters with
  | nil => cases read
  | cons character characters =>
      by_cases minus : character = '-'
      · subst minus
        exact readMagnitude_append ends read
      · have unsigned : ∀ rest, ∀ first ∈ (character :: rest).head?, first ≠ '-' := by
          intro rest first member
          cases member
          exact minus
        rw [readNumber_plain (unsigned characters)] at read
        rw [List.cons_append, readNumber_plain (unsigned (characters ++ rest))]
        exact readMagnitude_append ends read

/-! ## Whole numbers -/

theorem ofDigits_toDigits (number : Nat) : Decimal.ofDigits (Nat.toDigits 10 number) = number := by
  have read := Nat.ofDigitChars_toDigits (b := 10) (n := number) (by decide) (by decide)
  rw [Nat.ofDigitChars_eq_foldl] at read
  exact read

/-- A number is read back from its digits, when it is below the bound. -/
theorem boundedNumeral?_toDigits {bound number : Nat} (below : number < bound) :
    Text.boundedNumeral? bound (Nat.toDigits 10 number) = some number := by
  have digits : (Nat.toDigits 10 number).all Char.isDigit = true :=
    List.all_eq_true.2 fun _ member => Nat.isDigit_of_mem_toDigits (by decide) (by decide) member
  have some_digit : (Nat.toDigits 10 number).isEmpty = false := by
    rw [List.isEmpty_eq_false_iff]
    exact Nat.toDigits_ne_nil
  have value : Text.digits? (Nat.toDigits 10 number) = some number := by
    simp only [Text.digits?, some_digit, digits, Bool.not_true, Bool.or_self, Bool.false_eq_true,
      if_false]
    exact congrArg some (ofDigits_toDigits number)
  have unsigned : ∀ rest, Nat.toDigits 10 number ≠ '+' :: rest := by
    intro rest shape
    rw [shape] at digits
    cases digits
  rw [Text.boundedNumeral?, value, Option.filter_some, decide_eq_true below]
  · rfl
  · exact unsigned

/-- Only zero has a zero in front. -/
theorem head?_toDigits {number : Nat} (positive : number ≠ 0) :
    (Nat.toDigits 10 number).head? ≠ some '0' := by
  induction number using Nat.strongRecOn with
  | ind number ih =>
      rw [Nat.toDigits_eq_if (by decide)]
      split
      · rename_i small
        have each : ∀ digit < 10, digit ≠ 0 → [Nat.digitChar digit].head? ≠ some '0' := by decide
        exact each number small positive
      · rename_i large
        have leading := ih (number / 10) (by omega) (by omega)
        cases front : Nat.toDigits 10 (number / 10) with
        | nil => exact absurd front Nat.toDigits_ne_nil
        | cons digit digits =>
            rw [front] at leading
            exact leading

theorem takeWhile_toDigits (number : Nat) :
    (Nat.toDigits 10 number).takeWhile Char.isDigit = Nat.toDigits 10 number :=
  List.takeWhile_eq_self_iff.2 fun _ member =>
    Nat.isDigit_of_mem_toDigits (by decide) (by decide) member

theorem dropWhile_toDigits (number : Nat) :
    (Nat.toDigits 10 number).dropWhile Char.isDigit = [] :=
  List.dropWhile_eq_nil_iff.2 fun _ member =>
    Nat.isDigit_of_mem_toDigits (by decide) (by decide) member

theorem readMagnitude_toDigits (negative : Bool) (number : Nat) :
    readMagnitude negative (Nat.toDigits 10 number) =
      some (numberValue negative (Nat.toDigits 10 number) [] none, []) := by
  have proper : ((Nat.toDigits 10 number).isEmpty ||
      ((Nat.toDigits 10 number).head? = some '0' && (Nat.toDigits 10 number).length > 1)) =
        false := by
    have some_digit : (Nat.toDigits 10 number).isEmpty = false := by
      rw [List.isEmpty_eq_false_iff]
      exact Nat.toDigits_ne_nil
    by_cases zero : number = 0
    · subst zero
      rfl
    · simp [some_digit, head?_toDigits zero]
  simp only [readMagnitude, takeWhile_toDigits, dropWhile_toDigits, proper]
  rfl

/-- The whole numbers that are written as they are read: words with or without a sign. -/
def IsWord (value : Int) : Prop :=
  -9223372036854775808 ≤ value ∧ value < Text.wordBound

theorem toList_natural (number : Nat) :
    (toString (Int.ofNat number)).toList = Nat.toDigits 10 number :=
  Nat.toList_repr

theorem toList_negative (number : Nat) :
    (toString (Int.negSucc number)).toList = '-' :: Nat.toDigits 10 (number + 1) := by
  change ("-" ++ (number + 1).repr).toList = _
  rw [String.toList_append, Nat.toList_repr]
  rfl

theorem numberValue_natural {number : Nat} (word : number < Text.wordBound) :
    numberValue false (Nat.toDigits 10 number) [] none = .integer number := by
  simp [numberValue, ofDigits_toDigits, word]

theorem numberValue_negative {number : Nat} (positive : number ≠ 0)
    (word : number ≤ 9223372036854775808) :
    numberValue true (Nat.toDigits 10 number) [] none = .integer (-number) := by
  have below : number < Text.wordBound := by
    simp only [Text.wordBound]
    omega
  simp [numberValue, ofDigits_toDigits, below, positive, word]

/-- A whole number is read back as it was written. -/
theorem readNumber_integer {value : Int} (word : IsWord value) (ends : Ends rest) :
    readNumber ((toString value).toList ++ rest) = some (.integer value, rest) := by
  suffices read : readNumber (toString value).toList = some (.integer value, []) from
    readNumber_append ends read
  cases value with
  | ofNat number =>
      have unsigned : ∀ character ∈ (Nat.toDigits 10 number).head?, character ≠ '-' := by
        rintro character member rfl
        have digit : '-'.isDigit = true :=
          Nat.isDigit_of_mem_toDigits (by decide) (by decide) (List.mem_of_mem_head? member)
        cases digit
      rw [toList_natural, readNumber_plain unsigned, readMagnitude_toDigits,
        numberValue_natural (Int.ofNat_lt.1 word.2)]
      rfl
  | negSucc number =>
      have bounded := word.1
      rw [toList_negative, readNumber_minus, readMagnitude_toDigits,
        numberValue_negative (Nat.succ_ne_zero number) (by omega)]
      rfl

/-! ## Other numbers -/

/-- The text of a number is read as the number. -/
def ReadsBack (value : Float) : Prop :=
  read? (realText value) = some (.real value)

/-- The characters of numbers. -/
def IsNumeral (character : Char) : Prop :=
  character.isDigit = true ∨ character ∈ ['-', '+', '.', 'e']

instance (character : Char) : Decidable (IsNumeral character) :=
  inferInstanceAs (Decidable (_ ∨ _))

theorem IsNumeral.solid {character : Char} (numeral : IsNumeral character) :
    isSpace character = false := by
  rcases numeral with digit | member
  · simp only [isSpace, Bool.or_eq_false_iff, decide_eq_false_iff_not]
    refine ⟨⟨⟨?_, ?_⟩, ?_⟩, ?_⟩ <;>
    · rintro rfl
      cases digit
  · simp only [List.mem_cons, List.not_mem_nil, or_false] at member
    rcases member with rfl | rfl | rfl | rfl <;> rfl

theorem isNumeral_digits (number : Nat) :
    ∀ character ∈ Nat.toDigits 10 number, IsNumeral character :=
  fun _ member => .inl (Nat.isDigit_of_mem_toDigits (by decide) (by decide) member)

theorem isNumeral_zeros (count : Nat) :
    ∀ character ∈ List.replicate count '0', IsNumeral character := by
  intro character member
  cases List.eq_of_mem_replicate member
  exact .inl rfl

section

variable {first second : List Char}

theorem isNumeral_append (left : ∀ character ∈ first, IsNumeral character)
    (right : ∀ character ∈ second, IsNumeral character) :
    ∀ character ∈ first ++ second, IsNumeral character := by
  intro character member
  exact (List.mem_append.1 member).elim (left character) (right character)

theorem isNumeral_cons {head : Char} (left : IsNumeral head)
    (right : ∀ character ∈ second, IsNumeral character) :
    ∀ character ∈ head :: second, IsNumeral character :=
  List.forall_mem_cons.2 ⟨left, right⟩

end

theorem isNumeral_integer (value : Int) :
    ∀ character ∈ (toString value).toList, IsNumeral character := by
  cases value with
  | ofNat number =>
      rw [toList_natural]
      exact isNumeral_digits number
  | negSucc number =>
      rw [toList_negative]
      exact isNumeral_cons (.inr (by decide)) (isNumeral_digits _)

/-- A numeral written positionally is made of the characters of numbers. -/
theorem isNumeral_positionalText {digits : List Char}
    (numerals : ∀ character ∈ digits, IsNumeral character) (exponent : Int) :
    ∀ character ∈ (Decimal.Layout.document.positionalText digits exponent).toList,
      IsNumeral character := by
  have point : IsNumeral '.' := .inr (by decide)
  have zero : IsNumeral '0' := .inl rfl
  have mark : ∀ character ∈ ['.', '0'], IsNumeral character :=
    isNumeral_cons point (isNumeral_cons zero (by simp))
  simp only [Decimal.Layout.positionalText]
  split
  · rw [String.toList_append, String.toList_ofList]
    exact isNumeral_append (isNumeral_append numerals (isNumeral_zeros _)) mark
  · split <;> rw [String.toList_ofList]
    · exact isNumeral_append (fun character member => numerals character (List.mem_of_mem_take member))
        (isNumeral_cons point fun character member =>
          numerals character (List.mem_of_mem_drop member))
    · exact isNumeral_cons zero (isNumeral_cons point
        (isNumeral_append (isNumeral_zeros _) numerals))

/-- A numeral written with an exponent is made of the characters of numbers. -/
theorem isNumeral_scientificText {digits : List Char}
    (numerals : ∀ character ∈ digits, IsNumeral character) (leading : Int) :
    ∀ character ∈ (Decimal.Layout.scientificText digits leading).toList,
      IsNumeral character := by
  have point : IsNumeral '.' := .inr (by decide)
  have mark : ∀ character ∈ ['e'], IsNumeral character :=
    isNumeral_cons (.inr (by decide)) (by simp)
  have exponent : ∀ character ∈ (toString leading.natAbs).toList, IsNumeral character := by
    change ∀ character ∈ (Nat.repr leading.natAbs).toList, IsNumeral character
    rw [Nat.toList_repr]
    exact isNumeral_digits _
  have sign : ∀ character ∈ (if leading < 0 then "-" else "+").toList, IsNumeral character := by
    split
    · exact isNumeral_cons (.inr (by decide)) (by simp)
    · exact isNumeral_cons (.inr (by decide)) (by simp)
  simp only [Decimal.Layout.scientificText, String.toList_append, String.toList_ofList]
  refine isNumeral_append (isNumeral_append (isNumeral_append ?_ mark) sign) exponent
  split
  · obtain ⟨first, others⟩ := List.forall_mem_cons.1 numerals
    exact isNumeral_cons first (isNumeral_cons point others)
  · exact numerals

/-- The text of a finite number is made of the characters of numbers. -/
theorem isNumeral_realText {value : Float} (finite : value.isFinite = true) :
    ∀ character ∈ (realText value).toList, IsNumeral character := by
  have signed : ∀ negative : Prop, [Decidable negative] →
      ∀ character ∈ (if negative then "" else "-").toList, IsNumeral character := by
    intro negative decidable
    split
    · simp
    · exact isNumeral_cons (.inr (by decide)) (by simp)
  simp only [realText, finite, if_true, Decimal.Layout.write]
  split
  · rw [String.toList_append]
    exact isNumeral_append (signed _)
      (isNumeral_positionalText (isNumeral_cons (.inl rfl) (by simp)) 0)
  · split <;> rw [String.toList_append]
    · exact isNumeral_append (signed _) (isNumeral_positionalText (isNumeral_digits _) _)
    · exact isNumeral_append (signed _) (isNumeral_scientificText (isNumeral_digits _) _)

theorem readFraction_suffix {fraction : List Char}
    (read : readFraction characters = some (fraction, tail)) : tail <:+ characters := by
  simp only [readFraction] at read
  split at read
  · split at read
    · cases read
    · cases read
      exact (List.dropWhile_suffix _).trans (List.suffix_cons _ _)
  · cases read
    exact List.suffix_rfl

theorem splitSign_suffix (characters : List Char) :
    (Decimal.splitSign characters).2 <:+ characters := by
  simp only [Decimal.splitSign]
  split
  · exact List.suffix_cons _ _
  · exact List.suffix_cons _ _
  · exact List.suffix_rfl

theorem readExponent_suffix {exponent : Option Int}
    (read : readExponent characters = some (exponent, tail)) : tail <:+ characters := by
  cases characters with
  | nil =>
      cases read
      exact List.suffix_rfl
  | cons character characters =>
      simp only [readExponent] at read
      split at read
      · split at read
        · cases read
        · cases read
          exact (List.dropWhile_suffix _).trans
            ((splitSign_suffix characters).trans (List.suffix_cons _ _))
      · cases read
        exact List.suffix_rfl

theorem readMagnitude_suffix (negative : Bool) {document : Json}
    (read : readMagnitude negative characters = some (document, tail)) : tail <:+ characters := by
  simp only [readMagnitude] at read
  split at read
  · cases read
  · obtain ⟨⟨fraction, afterFraction⟩, first, read⟩ := Option.bind_eq_some_iff.1 read
    obtain ⟨⟨exponent, afterExponent⟩, second, read⟩ := Option.bind_eq_some_iff.1 read
    cases read
    exact (readExponent_suffix second).trans
      ((readFraction_suffix first).trans (List.dropWhile_suffix _))

/-- A number is read from the front of the characters. -/
theorem readNumber_suffix {document : Json}
    (read : readNumber characters = some (document, tail)) : tail <:+ characters := by
  simp only [readNumber] at read
  split at read
  · exact (readMagnitude_suffix true read).trans (List.suffix_cons _ _)
  · exact readMagnitude_suffix false read

/-- What begins with a character of numbers is read as a number. -/
theorem readValue_numeral (fuel depth : Nat) {character : Char} (numeral : IsNumeral character)
    (rest : List Char) :
    readValue (fuel + 1) depth (character :: rest) = readNumber (character :: rest) := by
  simp only [readValue, skipSpace_cons numeral.solid]
  split
  case h_7 => rfl
  all_goals
    rename_i shape
    cases shape
    exact absurd numeral (by decide)

/-- A number that is read back is read back whatever follows. -/
theorem readNumber_real {value : Float} (finite : value.isFinite = true) (back : ReadsBack value)
    (ends : Ends rest) :
    readNumber ((realText value).toList ++ rest) = some (.real value, rest) := by
  have numerals := isNumeral_realText finite
  simp only [ReadsBack, read?] at back
  cases written : (realText value).toList with
  | nil =>
      rw [written] at back
      cases back
  | cons character characters =>
      rw [written] at back numerals
      rw [readValue_numeral _ _ (numerals character (List.mem_cons_self ..))] at back
      obtain ⟨⟨document, tail⟩, read, back⟩ := Option.bind_eq_some_iff.1 back
      split at back
      · rename_i blank
        cases back
        -- What is left over would be blank, and no character of a number is.
        have suffix := readNumber_suffix read
        have nothing : tail = [] := by
          cases tail with
          | nil => rfl
          | cons first tail =>
              have numeral := numerals first (suffix.subset (List.mem_cons_self ..))
              rw [skipSpace_cons numeral.solid] at blank
              cases blank
        subst nothing
        exact readNumber_append ends read
      · cases back

end VisualNovel.Json
