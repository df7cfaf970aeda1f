import VisualNovel.State.Tree

/-!
# Assignments

An assignment names a target path, an operator and a right-hand side. The right-hand side is a
number, a text in quotation marks, a path that reads to a value, or else the text itself. Compound
operators count operands that are no numbers as zero, and a divisor that is zero or no number as
one.
-/

namespace VisualNovel

/-- The operator of an assignment. -/
inductive AssignmentOperator where
  /-- Replaces the value. -/
  | set
  /-- Adds to the value. -/
  | add
  /-- Subtracts from the value. -/
  | subtract
  /-- Multiplies the value. -/
  | multiply
  /-- Divides the value. -/
  | divide
  deriving DecidableEq

/-- An assignment taken apart. -/
structure Assignment where
  /-- The path that is written. -/
  target : String
  /-- The operator. -/
  operator : AssignmentOperator
  /-- The right-hand side. -/
  operand : String
  deriving DecidableEq

namespace AssignmentOperator

/-- Combines the current number with an operand that may be no number. -/
def apply (operator : AssignmentOperator) (current : Float) (operand : Option Float) : Float :=
  match operator with
  | .set => operand.getD 0.0
  | .add => current + operand.getD 0.0
  | .subtract => current - operand.getD 0.0
  | .multiply => current * operand.getD 0.0
  | .divide => current / (operand.filter fun divisor => divisor != 0.0).getD 1.0

/-- Reads an operator at the front of a text. -/
def read? : List Char → Option (AssignmentOperator × List Char)
  | '=' :: rest => some (.set, rest)
  | '+' :: '=' :: rest => some (.add, rest)
  | '-' :: '=' :: rest => some (.subtract, rest)
  | '*' :: '=' :: rest => some (.multiply, rest)
  | '/' :: '=' :: rest => some (.divide, rest)
  | _ => none

end AssignmentOperator

namespace Assignment

/-- The characters a target is made of. -/
def isTargetCharacter (character : Char) : Bool :=
  isWordCharacter character || character = '.' || character = '[' || character = ']' ||
    character = '\'' || character = '"'

/-- Reads an assignment. The operand is trimmed, and must be non-empty and of one line. -/
def parse? (expression : String) : Option Assignment := do
  let characters := Text.trimStart expression.toList
  let target := characters.takeWhile isTargetCharacter
  if target.isEmpty then none
  let behindTarget := Text.trimStart (characters.dropWhile isTargetCharacter)
  let (operator, behindOperator) ← AssignmentOperator.read? behindTarget
  let operand := Text.trim behindOperator
  if operand.isEmpty || operand.contains '\n' then none
  else some ⟨String.ofList target, operator, String.ofList operand⟩

/-- Whether the character is a quotation mark. -/
def isQuotationMark (character : Char) : Bool :=
  character = '"' || character = '\''

/-- The text between two quotation marks of any kind. -/
def unquoted? : List Char → Option (List Char)
  | opening :: rest =>
    match rest.reverse with
    | closing :: reversed =>
      if isQuotationMark opening && isQuotationMark closing then some reversed.reverse else none
    | [] => none
  | [] => none

/-- The value of a right-hand side. -/
def operandValue (state : StateTree) (operand : String) : Value :=
  match Decimal.readFinite? operand with
  | some number => Value.ofFloat number
  | none =>
    match unquoted? operand.toList with
    | some content => .text (String.ofList content)
    | none => (state.read? operand).getD (.text operand)

end Assignment

namespace StateTree

/-- Applies an assignment: the target is resolved first, then the right-hand side is read. -/
def assign (state : StateTree) (expression : String) : StateTree × Bool :=
  match Assignment.parse? expression with
  | none => (state, false)
  | some assignment =>
    match state.resolve assignment.target with
    | (resolved, none) => (resolved, false)
    | (resolved, some handle) =>
      let operand := Assignment.operandValue resolved assignment.operand
      let value :=
        if assignment.operator = .set then operand
        else
          let current := ((resolved.get? handle).bind Value.number?).getD 0.0
          Value.ofFloat (assignment.operator.apply current operand.number?)
      resolved.set handle value

/-- The state after an assignment. -/
def assigned (state : StateTree) (expression : String) : StateTree :=
  (state.assign expression).1

end StateTree

end VisualNovel
