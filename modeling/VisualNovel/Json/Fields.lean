import VisualNovel.Dict
import VisualNovel.Json.Basic

/-!
# Taking documents apart

A record is read from an object, whose unknown members are skipped, or from a list with the fields
in the order of their declaration, which may end early. A field that occurs twice makes the record
unreadable. `recordFields?_members` says which members of an object count.
-/

namespace VisualNovel.Json

/-- The fields of a record that a document gives. -/
abbrev Fields := List (String × Json)

/-- The text of a document. -/
def text? : Json → Option String
  | .text value => some value
  | _ => none

/-- The truth value of a document. -/
def bool? : Json → Option Bool
  | .bool value => some value
  | _ => none

/-- The number of a document that is a whole number and not negative. -/
def natural? : Json → Option Nat
  | .integer (.ofNat value) => some value
  | _ => none

/-- The number of a document that is a whole number of at most 64 bits with sign. -/
def signed? : Json → Option Int
  | .integer value => if value < 9223372036854775808 then some value else none
  | _ => none

/-- The number of a document, whole or not. -/
def float? : Json → Option Float
  | .integer value => some (Float.ofInt value)
  | .real value => some value
  | _ => none

/-- The items of a list, each read by `decode`. -/
def listOf? {α : Type} (decode : Json → Option α) : Json → Option (List α)
  | .array items => items.mapM decode
  | _ => none

/-- The members of an object as a dictionary, each value read by `decode`; the last of several
members with one name wins. -/
def dictOf? {α : Type} (decode : Json → Option α) : Json → Option (Dict α)
  | .object members =>
    (members.mapM fun member => (decode member.2).map (member.1, ·)).map Dict.ofPairs
  | _ => none

/-- Reads `null` as absence and anything else by `decode`. -/
def nullable? {α : Type} (decode : Json → Option α) : Json → Option (Option α)
  | .null => some none
  | document => (decode document).map some

/-- Reads a name as the value it stands for. An object whose only member has the name and no content
stands for the value too. -/
def named? {α : Type} (values : List (String × α)) : Json → Option α
  | .text name => values.lookup name
  | .object [(name, .null)] => values.lookup name
  | _ => none

/-- Reads a name within a record that tells its kind apart. There an empty object is no content
either. -/
def namedWithin? {α : Type} (values : List (String × α)) : Json → Option α
  | .object [(name, .object [])] => values.lookup name
  | document => named? values document

/-- The members that carry one of the names, unless a name occurs twice. -/
def knownMembers? (names : List String) (members : Fields) : Option Fields :=
  let known := members.filter fun member => names.contains member.1
  if (known.map Prod.fst).Nodup then some known else none

/-- The fields of a record with the given names. -/
def recordFields? (names : List String) : Json → Option Fields
  | .object members => knownMembers? names members
  | .array items => if items.length ≤ names.length then some (names.zip items) else none
  | _ => none

@[simp] theorem recordFields?_members (names : List String) (members : Fields) :
    recordFields? names (.object members) = knownMembers? names members := rfl

/-- The kind that a tag names: one of the names, or the position of one where positions count. -/
def kindName? (names : List String) (positions : Bool) : Json → Option String
  | .text name => if names.contains name then some name else none
  | .integer (.ofNat position) => if positions then names[position]? else none
  | _ => none

/-- Takes a record that tells its kind apart into the kind and the other fields. The kind is the
member `type` of an object, or the first item of a list; every piece has to be readable. -/
def tagged? (names : List String) (positions : Bool) : Json → Option (String × Json)
  | .object members =>
    let others := members.filter fun member => member.1 ≠ "type"
    match members.filter fun member => member.1 = "type" with
    | [(_, kind)] =>
      if membersReadable others then (kindName? names positions kind).map (·, .object others)
      else none
    | _ => none
  | .array (kind :: items) =>
    if areReadable items then (kindName? names positions kind).map (·, .array items) else none
  | _ => none

mutual

/-- The document with the members of every object in ascending order, the last of several with one
name; there is none when a piece is unreadable. -/
def canonical? : Json → Option Json
  | .array items => (canonicalItems? items).map .array
  | .object members =>
    (canonicalMembers? members).map fun members => .object (Dict.ofPairs members)
  | .unreadable => none
  | .null => some .null
  | .bool value => some (.bool value)
  | .integer value => some (.integer value)
  | .real value => some (.real value)
  | .text value => some (.text value)

/-- The items of a list, each canonical. -/
def canonicalItems? : List Json → Option (List Json)
  | [] => some []
  | item :: items => do
    let first ← canonical? item
    let others ← canonicalItems? items
    some (first :: others)

/-- The members of an object, each canonical. -/
def canonicalMembers? : List (String × Json) → Option (List (String × Json))
  | [] => some []
  | (name, value) :: members => do
    let first ← canonical? value
    let others ← canonicalMembers? members
    some ((name, first) :: others)

end

namespace Fields

/-- A field that has to be present. -/
def required? {α : Type} (fields : Fields) (name : String) (decode : Json → Option α) : Option α :=
  (fields.lookup name).bind decode

/-- A field that has a value of its own when it is absent. -/
def orDefault? {α : Type} (fields : Fields) (name : String) (default : α)
    (decode : Json → Option α) : Option α :=
  match fields.lookup name with
  | none => some default
  | some document => decode document

/-- A field that may be absent or `null`. -/
def optional? {α : Type} (fields : Fields) (name : String) (decode : Json → Option α) :
    Option (Option α) :=
  fields.orDefault? name none (nullable? decode)

end Fields

/-- The member of an object for a field that is left out when absent. -/
def optionalMember {α : Type} (name : String) (encode : α → Json) : Option α → Fields
  | none => []
  | some value => [(name, encode value)]

/-- An absent value is written as `null`. -/
def ofOption {α : Type} (encode : α → Json) (value : Option α) : Json :=
  value.elim .null encode

/-- A number that is not negative. -/
def natural (value : Nat) : Json :=
  .integer value

end VisualNovel.Json
