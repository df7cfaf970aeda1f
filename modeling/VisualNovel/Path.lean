import VisualNovel.Text.Trim
import VisualNovel.Value

/-!
# Paths

A path names a place in the state: parts divided by dots, each a key followed by selectors in
brackets. A numeral selects a position of a list, and any other selector the element with that
identifier. On a map every segment is a key. Looking a path up creates nothing.
-/

namespace VisualNovel

/-- One step of a path. -/
inductive Segment where
  /-- A key of a map. -/
  | key (name : String)
  /-- A position of a list. -/
  | index (position : Nat)
  /-- An element of a list, by its identifier. -/
  | element (identifier : String)
  deriving DecidableEq

namespace Segment

/-- The text of a segment; selectors stand in brackets. -/
def display : Segment → String
  | .key name => name
  | .index position => "[" ++ toString position ++ "]"
  | .element identifier => "[" ++ identifier ++ "]"

/-- The key that the segment stands for on a map. -/
def mapKey : Segment → String
  | .key name => name
  | .index position => toString position
  | .element identifier => identifier

/-- The characters between a pair of the given quotation mark. -/
def betweenMarks? (mark : Char) : List Char → Option (List Char)
  | opening :: rest =>
    match rest.reverse with
    | closing :: reversed =>
      if opening = mark && closing = mark then some reversed.reverse else none
    | [] => none
  | [] => none

/-- The segment of a trimmed selector: a numeral is a position, anything else an identifier, from
which a pair of quotation marks is taken off. -/
def ofSelector (selector : List Char) : Segment :=
  match Text.boundedNumeral? Text.wordBound selector with
  | some position => .index position
  | none =>
    let unquoted := (betweenMarks? '"' selector).or (betweenMarks? '\'' selector)
    .element (String.ofList (unquoted.getD selector))

/-- Reads selectors up to the end of a part. The first argument holds the characters, in reverse,
of a selector that is still open. -/
def selectors? : Option (List Char) → List Char → Option (List Segment)
  | none, [] => some []
  | none, character :: rest =>
    if character = '[' then selectors? (some []) rest else none
  | some _, [] => none
  | some reversed, character :: rest =>
    if character = ']' then
      let selector := Text.trim reversed.reverse
      if selector.isEmpty then none
      else (selectors? none rest).map (ofSelector selector :: ·)
    else selectors? (some (character :: reversed)) rest

/-- Reads one part of a path: a key without brackets and its selectors. -/
def ofPart? (part : List Char) : Option (List Segment) :=
  let part := Text.trim part
  let name := part.takeWhile fun character => character ≠ '['
  if name.isEmpty || name.contains ']' then none
  else
    (selectors? none (part.dropWhile fun character => character ≠ '[')).map fun selectors =>
      .key (String.ofList name) :: selectors

end Segment

/-- A path and the text it was read from. -/
structure Path where
  /-- The text without blanks at either end. -/
  text : String
  /-- The segments in order. -/
  segments : List Segment
  deriving DecidableEq

namespace Path

/-- Reads a path; empty parts and unbalanced brackets are refused. -/
def parse? (text : String) : Option Path :=
  let characters := Text.trim text.toList
  if characters.isEmpty then none
  else
    ((Text.splitOn '.' characters).mapM Segment.ofPart?).map fun parts =>
      ⟨String.ofList characters, parts.flatten⟩

/-- The leading key. -/
def rootKey? (path : Path) : Option String :=
  match path.segments with
  | .key name :: _ => some name
  | _ => none

/-- Whether one of the segments is the key. -/
def touches (path : Path) (key : String) : Bool :=
  path.segments.contains (.key key)

end Path

namespace Value

/-- The position of the first item with the identifier. -/
def positionOf? (items : List Value) (identifier : String) : Option Nat :=
  items.findIdx? fun item => item.discriminator? = some identifier

/-- The position that a segment selects in a list. -/
def position? (items : List Value) : Segment → Option Nat
  | .key _ => none
  | .index position => some position
  | .element identifier => positionOf? items identifier

/-- The value one segment further. -/
def child? (value : Value) (segment : Segment) : Option Value :=
  match value with
  | .map entries => Dict.get? entries segment.mapKey
  | .list items => (position? items segment).bind fun position => items[position]?
  | _ => none

/-- The value at the end of a route. -/
def lookup? (value : Value) (route : List Segment) : Option Value :=
  route.foldlM child? value

@[simp] theorem lookup?_nil (value : Value) : value.lookup? [] = some value := rfl

@[simp] theorem lookup?_cons (value : Value) (segment : Segment) (route : List Segment) :
    value.lookup? (segment :: route) =
      (value.child? segment).bind fun child => child.lookup? route := rfl

end Value

end VisualNovel
