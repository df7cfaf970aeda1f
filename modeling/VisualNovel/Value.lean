import VisualNovel.Decimal.Numeral
import VisualNovel.Json.Fields
import VisualNovel.Json.Writer

/-!
# Values of a game

The state of a game is made of dynamic values. Whole numbers are 64-bit words with sign and stay
apart from floating-point numbers, which may be infinite or undefined. A map is a dictionary.
Values are read from documents and written as documents; `Value.display` is the text a player sees.
-/

namespace VisualNovel

/-- A value of the game state. -/
inductive Value where
  /-- The absence of a value. -/
  | null
  /-- A truth value. -/
  | bool (value : Bool)
  /-- A whole number of 64 bits. -/
  | int (value : Int64)
  /-- A floating-point number. -/
  | float (value : Float)
  /-- A text. -/
  | text (value : String)
  /-- A list of values. -/
  | list (items : List Value)
  /-- Named values in ascending order of their names. -/
  | map (entries : List (String × Value))

namespace Value

instance : Inhabited Value := ⟨.null⟩

/-- The map without entries. -/
def emptyMap : Value := .map []

/-- The greatest magnitude up to which every whole number is a double. -/
def greatestExact : Float := 9007199254740991.0

/-- Stores an arithmetic result: as a whole number when it is one and is exact, and as a
floating-point number otherwise. -/
def ofFloat (number : Float) : Value :=
  if number.isFinite && number == number.floor && number.abs ≤ greatestExact then
    .int number.toInt64
  else .float number

/-- The floating-point number nearest to a whole number. -/
def intFloat (value : Int64) : Float :=
  let magnitude := Decimal.nearest value.toInt.natAbs 0
  if value.toInt < 0 then -magnitude else magnitude

/-- The numeric view of a number. -/
def float? : Value → Option Float
  | .int value => some (intFloat value)
  | .float value => some value
  | _ => none

/-- The number that a value counts as in arithmetic. Nothing and blank text count as zero, a truth
value as zero or one, and text as the number it spells; an undefined number counts as none. -/
def number? (value : Value) : Option Float :=
  let number : Option Float :=
    match value with
    | .null => some 0.0
    | .bool value => some (if value then 1.0 else 0.0)
    | .int value => some (intFloat value)
    | .float value => some value
    | .text content =>
      let trimmed := Text.trimmed content
      if trimmed.isEmpty then some 0.0 else Decimal.readFinite? trimmed
    | .list _ => none
    | .map _ => none
  number.filter fun number => !number.isNaN

/-- The text of a text value. -/
def text? : Value → Option String
  | .text value => some value
  | _ => none

/-- The entries of a map. -/
def map? : Value → Option (Dict Value)
  | .map entries => some entries
  | _ => none

/-- The items of a list. -/
def list? : Value → Option (List Value)
  | .list items => some items
  | _ => none

/-- The entry of a map under a key. -/
def get? (value : Value) (key : String) : Option Value :=
  value.map?.bind fun entries => Dict.get? entries key

/-- Whether this is the absent value. -/
def isNull : Value → Bool
  | .null => true
  | _ => false

/-- Whether the value is a map or a list, so that a path may lead through it. -/
def isContainer : Value → Bool
  | .list _ => true
  | .map _ => true
  | _ => false

/-- Whether the value says nothing: absent, false, zero, undefined, or without content. -/
def isEmpty : Value → Bool
  | .null => true
  | .bool value => !value
  | .int value => value == 0
  | .float value => value == 0.0 || value.isNaN
  | .text value => value.isEmpty
  | .list items => items.isEmpty
  | .map entries => entries.isEmpty

mutual

/-- Equality of values of the same kind; an undefined number differs from itself. -/
def same : Value → Value → Bool
  | .null, .null => true
  | .bool left, .bool right => left == right
  | .int left, .int right => left == right
  | .float left, .float right => left == right
  | .text left, .text right => left == right
  | .list left, .list right => sameItems left right
  | .map left, .map right => sameEntries left right
  | _, _ => false

/-- Equality of lists, item by item. -/
def sameItems : List Value → List Value → Bool
  | [], [] => true
  | left :: lefts, right :: rights => same left right && sameItems lefts rights
  | _, _ => false

/-- Equality of maps, entry by entry. -/
def sameEntries : List (String × Value) → List (String × Value) → Bool
  | [], [] => true
  | (leftKey, left) :: lefts, (rightKey, right) :: rights =>
    leftKey == rightKey && same left right && sameEntries lefts rights
  | _, _ => false

end

instance : BEq Value := ⟨same⟩

/-- Equality that takes a whole number and a floating-point number of one magnitude as the same. -/
def looseEq (left right : Value) : Bool :=
  match left.float?, right.float? with
  | some left, some right => left == right
  | _, _ => left == right

/-- The decimal digits of a whole number. -/
def intText (value : Int64) : String :=
  toString value.toInt

/-- The keys that identify an element of a list. -/
def identifyingKeys : List String := ["id", "itemId", "item_id"]

/-- The identifier of a list element: the first identifying key that holds a text or a whole
number. -/
def discriminator? (value : Value) : Option String :=
  identifyingKeys.findSome? fun key =>
    match value.get? key with
    | some (.text content) => some content
    | some (.int number) => some (intText number)
    | _ => none

/-- A key behind the path of its map; there is no dot at the root. -/
def joinKey (parent key : String) : String :=
  if parent.isEmpty then key else parent ++ "." ++ key

mutual

/-- The path of the first number that is not finite, behind the path of the value. -/
def nonFinite? (path : String) : Value → Option String
  | .float value => if value.isFinite then none else some path
  | .list items => nonFiniteItem? path 0 items
  | .map entries => nonFiniteMember? path entries
  | _ => none

/-- The path of the first number that is not finite among items counted from `index`. -/
def nonFiniteItem? (path : String) (index : Nat) : List Value → Option String
  | [] => none
  | item :: items =>
    (nonFinite? (path ++ "[" ++ toString index ++ "]") item).or
      (nonFiniteItem? path (index + 1) items)

/-- The path of the first number that is not finite among the entries of a map. -/
def nonFiniteMember? (path : String) : List (String × Value) → Option String
  | [] => none
  | (key, value) :: entries =>
    (nonFinite? (joinKey path key) value).or (nonFiniteMember? path entries)

end

mutual

/-- The document of a value. -/
def toJson : Value → Json
  | .null => .null
  | .bool value => .bool value
  | .int value => .integer value.toInt
  | .float value => .real value
  | .text value => .text value
  | .list items => .array (itemsToJson items)
  | .map entries => .object (entriesToJson entries)

/-- The documents of the items of a list. -/
def itemsToJson : List Value → List Json
  | [] => []
  | item :: items => toJson item :: itemsToJson items

/-- The documents of the entries of a map. -/
def entriesToJson : List (String × Value) → List (String × Json)
  | [] => []
  | (key, value) :: entries => (key, toJson value) :: entriesToJson entries

end

/-- The value of a whole number: a word when it fits 64 bits with sign. -/
def ofInt (number : Int) : Value :=
  if -9223372036854775808 ≤ number && number ≤ 9223372036854775807 then
    .int (Int64.ofInt number)
  else .float (Float.ofInt number)

mutual

/-- The value of a readable document. -/
def ofJson? : Json → Option Value
  | .null => some .null
  | .bool value => some (.bool value)
  | .integer value => some (ofInt value)
  | .real value => some (.float value)
  | .text value => some (.text value)
  | .array items => (itemsOfJson? items).map .list
  | .object members => (entriesOfJson? members).map fun entries => .map (Dict.ofPairs entries)
  | .unreadable => none

/-- The values of the items of a list. -/
def itemsOfJson? : List Json → Option (List Value)
  | [] => some []
  | item :: items => do
    let value ← ofJson? item
    let values ← itemsOfJson? items
    some (value :: values)

/-- The values of the members of an object. -/
def entriesOfJson? : List (String × Json) → Option (List (String × Value))
  | [] => some []
  | (key, document) :: members => do
    let value ← ofJson? document
    let entries ← entriesOfJson? members
    some ((key, value) :: entries)

end

/-- The map of a document that is an object. -/
def mapOfJson? (document : Json) : Option (Dict Value) :=
  (ofJson? document).bind map?

/-- The document of a map. -/
def mapToJson (entries : Dict Value) : Json :=
  .object (entriesToJson entries)

/-- The text of a number in front of a player. -/
def floatText (value : Float) : String :=
  if value.isFinite then Decimal.Layout.plain.write value
  else if value.isNaN then "NaN"
  else if value < 0.0 then "-inf"
  else "inf"

/-- The text of a value in front of a player: absence is no text, lists and maps are compact
documents. -/
def display : Value → String
  | .null => ""
  | .bool true => "true"
  | .bool false => "false"
  | .int value => intText value
  | .float value => floatText value
  | .text value => value
  | .list items => (Json.array (itemsToJson items)).compact
  | .map entries => (Json.object (entriesToJson entries)).compact

end Value

end VisualNovel
