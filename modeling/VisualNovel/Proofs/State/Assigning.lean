import VisualNovel.Proofs.Text.Trim
import VisualNovel.State.Assignment

/-!
# Assignments as they are written

An assignment is written as its target, its operator and its operand, with blanks around them. Its
parts are told from the text alone, because no operator begins with a blank or with a character of a
target, and no such character is blank.
-/

namespace VisualNovel

/-! ## Classes of characters -/

namespace CharacterClass

/-- No range of one table meets a range of the other. -/
def Apart (ranges others : List (Nat × Nat)) : Prop :=
  ∀ range ∈ ranges, ∀ other ∈ others, other.2 < range.1 ∨ range.2 < other.1

instance (ranges others : List (Nat × Nat)) : Decidable (Apart ranges others) :=
  inferInstanceAs (Decidable (∀ range ∈ ranges, ∀ other ∈ others, _ ∨ _))

theorem Apart.covers_eq_false {ranges others : List (Nat × Nat)} (apart : Apart ranges others)
    {point : Nat} (covered : covers ranges point = true) : covers others point = false := by
  obtain ⟨range, member, within⟩ := List.any_eq_true.1 covered
  rw [covers, List.any_eq_false]
  intro other present inside
  simp only [Bool.and_eq_true, decide_eq_true_eq] at within inside
  have divided := apart range member other present
  omega

/-- No blank is a word character. -/
theorem isWordCharacter_of_isBlank {character : Char} (blank : isBlank character = true) :
    isWordCharacter character = false := by
  have digits : Apart blankRanges digitRanges := by decide +kernel
  have connectors : Apart blankRanges connectorRanges := by decide +kernel
  have letters : Apart blankRanges alphabeticRanges := by decide +kernel
  have marks : Apart blankRanges markRanges := by decide +kernel
  simp only [isWordCharacter, digits.covers_eq_false blank, connectors.covers_eq_false blank,
    letters.covers_eq_false blank, marks.covers_eq_false blank]
  rfl

end CharacterClass

/-! ## Operators -/

namespace AssignmentOperator

/-- The operator as it is written. -/
def symbol : AssignmentOperator → String
  | .set => "="
  | .add => "+="
  | .subtract => "-="
  | .multiply => "*="
  | .divide => "/="

variable {operator : AssignmentOperator} {characters rest : List Char}

theorem read?_symbol (operator : AssignmentOperator) (rest : List Char) :
    read? (operator.symbol.toList ++ rest) = some (operator, rest) := by
  cases operator <;> rfl

theorem eq_symbol_of_read? (read : read? characters = some (operator, rest)) :
    characters = operator.symbol.toList ++ rest := by
  rw [AssignmentOperator.read?.eq_def] at read
  split at read <;> cases read <;> rfl

/-- An operator begins with no blank and no character of a target. -/
theorem boundary_symbol (operator : AssignmentOperator) (rest : List Char) :
    ∀ character ∈ (operator.symbol.toList ++ rest).head?,
      isBlank character = false ∧ Assignment.isTargetCharacter character = false := by
  intro character first
  cases operator <;>
  · cases first
    decide +kernel

end AssignmentOperator

namespace Assignment

/-! ## Written assignments -/

/-- The target has characters of targets alone, and the operand is one line without blanks at its
ends. Neither is empty. -/
structure Proper (assignment : Assignment) : Prop where
  some_target : assignment.target ≠ ""
  target_characters :
    ∀ character ∈ assignment.target.toList, isTargetCharacter character = true
  some_operand : assignment.operand ≠ ""
  one_line : '\n' ∉ assignment.operand.toList
  tight : Text.Tight assignment.operand.toList

/-- The expression is the assignment with blanks in front of its parts and behind the last one. -/
inductive Spells (assignment : Assignment) : String → Prop where
  | intro (front between behind back : String) :
      (∀ character ∈ front.toList, isBlank character = true) →
      (∀ character ∈ between.toList, isBlank character = true) →
      (∀ character ∈ behind.toList, isBlank character = true) →
      (∀ character ∈ back.toList, isBlank character = true) →
      Spells assignment
        (front ++ assignment.target ++ between ++ assignment.operator.symbol ++ behind ++
          assignment.operand ++ back)

variable {assignment : Assignment} {expression : String}

theorem isTargetCharacter_of_isBlank {character : Char} (blank : isBlank character = true) :
    isTargetCharacter character = false := by
  have word := CharacterClass.isWordCharacter_of_isBlank blank
  simp only [isTargetCharacter, word, Bool.false_or, Bool.or_eq_false_iff, decide_eq_false_iff_not]
  refine ⟨⟨⟨⟨?_, ?_⟩, ?_⟩, ?_⟩, ?_⟩ <;>
  · rintro rfl
    cases blank

/-- What each step of the reading finds. -/
theorem parse?_eq_some_iff : parse? expression = some assignment ↔
    assignment.target ≠ "" ∧ assignment.operand ≠ "" ∧ '\n' ∉ assignment.operand.toList ∧
      (Text.trimStart expression.toList).takeWhile isTargetCharacter = assignment.target.toList ∧
      ∃ rest,
        AssignmentOperator.read?
            (Text.trimStart ((Text.trimStart expression.toList).dropWhile isTargetCharacter)) =
          some (assignment.operator, rest) ∧
        Text.trim rest = assignment.operand.toList := by
  obtain ⟨target, operator, operand⟩ := assignment
  dsimp only
  constructor
  · intro parsed
    simp only [parse?] at parsed
    split at parsed
    · cases parsed
    · rename_i some_target
      obtain ⟨⟨found, rest⟩, read, built⟩ := Option.bind_eq_some_iff.1 parsed
      dsimp only at built
      split at built
      · cases built
      · rename_i sound
        cases built
        rw [Bool.or_eq_true, not_or] at sound
        obtain ⟨some_operand, one_line⟩ := sound
        refine ⟨?_, ?_, ?_, String.toList_ofList.symm, rest, read, String.toList_ofList.symm⟩
        · simpa using some_target
        · simpa using some_operand
        · simpa using one_line
  · rintro ⟨some_target, some_operand, one_line, taken, rest, read, trimmed⟩
    have proper : target.toList.isEmpty = false := by simpa using some_target
    have sound : (operand.toList.isEmpty || operand.toList.contains '\n') = false := by
      simpa using ⟨some_operand, one_line⟩
    simp only [parse?]
    rw [taken, read]
    simp only [proper, Option.bind_eq_bind, Option.bind_some, trimmed, sound, Bool.false_eq_true,
      if_false, String.ofList_toList]

/-- Behind a target stands no character of a target. -/
theorem boundary_target {between : List Char}
    (blank : ∀ character ∈ between, isBlank character = true) (operator : AssignmentOperator)
    (rest : List Char) : ∀ character ∈ (between ++ (operator.symbol.toList ++ rest)).head?,
      isTargetCharacter character = false := by
  cases between with
  | nil => exact fun character first => (operator.boundary_symbol rest character first).2
  | cons first between =>
      intro character member
      cases member
      exact isTargetCharacter_of_isBlank (blank first (List.mem_cons_self ..))

/-- Each part of an expression ends where the next one begins. -/
theorem Proper.parse?_of_spells (proper : assignment.Proper)
    (spells : assignment.Spells expression) : parse? expression = some assignment := by
  obtain ⟨front, between, behind, back, blankFront, blankBetween, blankBehind, blankBack⟩ := spells
  have listed : (front ++ assignment.target ++ between ++ assignment.operator.symbol ++ behind ++
      assignment.operand ++ back).toList =
        front.toList ++ (assignment.target.toList ++ (between.toList ++
          (assignment.operator.symbol.toList ++
            (behind.toList ++ (assignment.operand.toList ++ back.toList))))) := by
    simp only [String.toList_append, List.append_assoc]
  have some_target : assignment.target.toList ≠ [] :=
    fun empty => proper.some_target (String.toList_eq_nil_iff.1 empty)
  have visible : ∀ rest, ∀ character ∈ (assignment.target.toList ++ rest).head?,
      isBlank character = false := by
    intro rest character first
    rw [List.head?_append_of_ne_nil _ some_target] at first
    rw [Bool.eq_false_iff]
    intro blank
    have inside := proper.target_characters character (List.mem_of_mem_head? first)
    rw [isTargetCharacter_of_isBlank blank] at inside
    cases inside
  have ends := boundary_target blankBetween assignment.operator
  rw [parse?_eq_some_iff, listed, Text.trimStart_append blankFront (visible _),
    Text.takeWhile_append proper.target_characters (ends _),
    Text.dropWhile_append proper.target_characters (ends _),
    Text.trimStart_append blankBetween fun character first =>
      (assignment.operator.boundary_symbol _ character first).1,
    AssignmentOperator.read?_symbol]
  exact ⟨proper.some_target, proper.some_operand, proper.one_line, rfl, _, rfl,
    proper.tight.trim_between blankBehind blankBack⟩

/-- What is read is proper, and the expression is written so. -/
theorem proper_and_spells_of_parse? (parsed : parse? expression = some assignment) :
    assignment.Proper ∧ assignment.Spells expression := by
  obtain ⟨some_target, some_operand, one_line, taken, rest, read, trimmed⟩ :=
    parse?_eq_some_iff.1 parsed
  obtain ⟨front, blankFront, whole⟩ := Text.exists_trimStart expression.toList
  obtain ⟨between, blankBetween, gap⟩ :=
    Text.exists_trimStart ((Text.trimStart expression.toList).dropWhile isTargetCharacter)
  obtain ⟨behind, back, blankBehind, blankBack, operand⟩ := Text.exists_trim rest
  have shape : expression = String.ofList front ++ assignment.target ++ String.ofList between ++
      assignment.operator.symbol ++ String.ofList behind ++ assignment.operand ++
        String.ofList back := by
    rw [← String.toList_inj]
    simp only [String.toList_append, String.toList_ofList, List.append_assoc]
    calc
      expression.toList = front ++ Text.trimStart expression.toList := whole
      _ = front ++ (assignment.target.toList ++
            (Text.trimStart expression.toList).dropWhile isTargetCharacter) := by
        rw [← taken, List.takeWhile_append_dropWhile]
      _ = front ++ (assignment.target.toList ++
            (between ++ (assignment.operator.symbol.toList ++ rest))) := by
        rw [← AssignmentOperator.eq_symbol_of_read? read, ← gap]
      _ = front ++ (assignment.target.toList ++ (between ++ (assignment.operator.symbol.toList ++
            (behind ++ (assignment.operand.toList ++ back))))) := by
        rw [← trimmed, ← operand]
  have inside : ∀ character ∈ assignment.target.toList, isTargetCharacter character = true := by
    rw [← taken]
    exact fun _ => List.mem_takeWhile_imp
  refine ⟨⟨some_target, inside, some_operand, one_line, trimmed ▸ Text.tight_trim rest⟩, ?_⟩
  rw [shape]
  refine .intro _ _ _ _ ?_ ?_ ?_ ?_ <;> rwa [String.toList_ofList]

/-! ## Reading is unique -/

/-- An expression is read as an assignment exactly when it is written as that assignment, which is
therefore the only one. Any other expression changes nothing. -/
theorem parse?_unique (expression : String) :
    (∀ assignment, parse? expression = some assignment ↔
      assignment.Proper ∧ assignment.Spells expression) ∧
    ∀ state : StateTree, (¬∃ assignment : Assignment, assignment.Proper ∧
      assignment.Spells expression) → state.assign expression = (state, false) := by
  have exact_reading : ∀ assignment, parse? expression = some assignment ↔
      assignment.Proper ∧ assignment.Spells expression := fun assignment =>
    ⟨proper_and_spells_of_parse?, fun ⟨proper, spells⟩ => proper.parse?_of_spells spells⟩
  refine ⟨exact_reading, fun state unwritten => ?_⟩
  have refused : parse? expression = none := by
    rw [Option.eq_none_iff_forall_ne_some]
    exact fun assignment parsed => unwritten ⟨assignment, (exact_reading assignment).1 parsed⟩
  rw [StateTree.assign, refused]

/-- An operand may have operators and quotation marks in it, and blanks around an operator may be
line breaks. A target with a blank in it is none. -/
theorem parse?_unique_quoted :
    parse? "  global.bag['key'].n\t+=\n= \"a += b\"  " =
        some ⟨"global.bag['key'].n", .add, "= \"a += b\""⟩ ∧
      (¬∃ assignment : Assignment, assignment.Proper ∧ assignment.Spells "global x = 1") ∧
      StateTree.empty.assign "global x = 1" = (StateTree.empty, false) := by
  have proper : Proper ⟨"global.bag['key'].n", .add, "= \"a += b\""⟩ := by
    refine ⟨by decide, List.all_eq_true.1 (by decide +kernel), by decide, by decide, ⟨?_, ?_⟩⟩ <;>
    · intro character member
      cases member
      decide
  have spells : Spells ⟨"global.bag['key'].n", .add, "= \"a += b\""⟩
      "  global.bag['key'].n\t+=\n= \"a += b\"  " :=
    .intro "  " "\t" "\n" "  " (List.all_eq_true.1 (by decide)) (List.all_eq_true.1 (by decide))
      (List.all_eq_true.1 (by decide)) (List.all_eq_true.1 (by decide))
  have unwritten : ¬∃ assignment : Assignment, assignment.Proper ∧
      assignment.Spells "global x = 1" := by
    rintro ⟨assignment, written⟩
    have refused : parse? "global x = 1" = none := by decide +kernel
    rw [((parse?_unique "global x = 1").1 assignment).2 written] at refused
    cases refused
  exact ⟨((parse?_unique _).1 _).2 ⟨proper, spells⟩, unwritten,
    (parse?_unique "global x = 1").2 StateTree.empty unwritten⟩

end Assignment

end VisualNovel
