import VisualNovel.Json.Fields
import VisualNovel.Value

/-!
# Comparison operators

A condition compares an actual value, which may be missing, with an expected one. Numbers compare
by magnitude whatever their kind, texts by their code points. An operator has one name in written
documents and may have others in documents that are read.
-/

namespace VisualNovel

/-- A comparison between an actual and an expected value. -/
inductive ComparisonOperator where
  /-- Equal. -/
  | eq
  /-- Not equal; a missing value equals nothing. -/
  | ne
  /-- Greater. -/
  | gt
  /-- Greater or equal. -/
  | gte
  /-- Less. -/
  | lt
  /-- Less or equal. -/
  | lte
  /-- One of a list. -/
  | isIn
  /-- None of a list. -/
  | notIn
  /-- A list with the item, or a text with the part. -/
  | contains
  /-- A text with the beginning. -/
  | startsWith
  /-- A text with the end. -/
  | endsWith
  /-- Present and not absent. -/
  | exists
  /-- Missing or empty. -/
  | empty
  /-- Equal; the name is used for items. -/
  | has
  /-- Not equal; the name is used for items. -/
  | not
  deriving DecidableEq

namespace ComparisonOperator

/-- All operators. -/
def all : List ComparisonOperator :=
  [.eq, .ne, .gt, .gte, .lt, .lte, .isIn, .notIn, .contains, .startsWith, .endsWith, .exists,
    .empty, .has, .not]

/-- The name in written documents. -/
def name : ComparisonOperator → String
  | .eq => "eq"
  | .ne => "ne"
  | .gt => "gt"
  | .gte => "gte"
  | .lt => "lt"
  | .lte => "lte"
  | .isIn => "in"
  | .notIn => "nin"
  | .contains => "contains"
  | .startsWith => "startsWith"
  | .endsWith => "endsWith"
  | .exists => "exists"
  | .empty => "empty"
  | .has => "has"
  | .not => "not"

/-- The other names in documents that are read. -/
def otherNames : List (String × ComparisonOperator) :=
  [("=", .eq), ("==", .eq), ("!=", .ne), (">", .gt), (">=", .gte), ("<", .lt), ("<=", .lte),
    ("not-in", .notIn)]

/-- Every name with its operator. -/
def names : List (String × ComparisonOperator) :=
  all.map (fun operator => (operator.name, operator)) ++ otherNames

/-- Reads an operator. -/
def ofJson? (document : Json) : Option ComparisonOperator :=
  Json.named? names document

/-- The order of two values: texts by their code points, numbers by magnitude, others not at
all. -/
def order? (actual expected : Value) : Option Ordering :=
  match actual, expected with
  | .text actual, .text expected => some (compare actual expected)
  | _, _ =>
    match actual.float?, expected.float? with
    | some actual, some expected =>
      if actual < expected then some .lt
      else if actual == expected then some .eq
      else if actual > expected then some .gt
      else none
    | _, _ => none

/-- Whether the actual value is there and equal to the expected one. -/
def equals (actual : Option Value) (expected : Value) : Bool :=
  actual.any fun actual => actual.looseEq expected

/-- Whether the actual value is there and its order to the expected one is accepted. -/
def ordered (accepted : Ordering → Bool) (actual : Option Value) (expected : Value) : Bool :=
  (actual.bind fun actual => order? actual expected).any accepted

/-- Whether the actual value is there and equal to an item of the expected list. -/
def isAmong (actual : Option Value) (expected : Value) : Bool :=
  match actual, expected.list? with
  | some actual, some items => items.any fun item => item.looseEq actual
  | _, _ => false

/-- The characters of the text of a value that may be missing. -/
def characters (actual : Option Value) : List Char :=
  (actual.map Value.display).getD "" |>.toList

/-- Whether the comparison holds. -/
def compare (operator : ComparisonOperator) (actual : Option Value) (expected : Value) : Bool :=
  let expectedText := expected.display.toList
  match operator with
  | .eq => equals actual expected
  | .has => equals actual expected
  | .ne => !equals actual expected
  | .not => !equals actual expected
  | .gt => ordered Ordering.isGT actual expected
  | .gte => ordered Ordering.isGE actual expected
  | .lt => ordered Ordering.isLT actual expected
  | .lte => ordered Ordering.isLE actual expected
  | .isIn => isAmong actual expected
  | .notIn => !isAmong actual expected
  | .contains =>
    match actual with
    | some (.list items) => items.any fun item => item.looseEq expected
    | _ => Text.containsPart expectedText (characters actual)
  | .startsWith => (Text.afterPrefix expectedText (characters actual)).isSome
  | .endsWith => (Text.afterPrefix expectedText.reverse (characters actual).reverse).isSome
  | .exists => actual.any fun actual => !actual.isNull
  | .empty => actual.all Value.isEmpty

end ComparisonOperator

end VisualNovel
