import VisualNovel.Decimal.Layout
import VisualNovel.Json.Basic

/-!
# Writing documents

A document is written compactly, without blanks, or indented by two spaces a level. Quotation
marks, backslashes and control characters are escaped, and every other character stands for
itself. A number that is not finite is written as `null`.
-/

namespace VisualNovel.Json

/-- A hexadecimal digit in lower case. -/
def hexDigit (value : Nat) : Char :=
  Nat.digitChar (value % 16)

/-- A character inside quotation marks. -/
def escaped (character : Char) : List Char :=
  if character = '"' then ['\\', '"']
  else if character = '\\' then ['\\', '\\']
  else if character = '\x08' then ['\\', 'b']
  else if character = '\t' then ['\\', 't']
  else if character = '\n' then ['\\', 'n']
  else if character = '\x0c' then ['\\', 'f']
  else if character = '\r' then ['\\', 'r']
  else if character.toNat < 32 then
    ['\\', 'u', '0', '0', hexDigit (character.toNat / 16), hexDigit character.toNat]
  else [character]

/-- A text in quotation marks. -/
def quoted (text : String) : String :=
  String.ofList ('"' :: text.toList.flatMap escaped ++ ['"'])

/-- The text of a number that is not whole. -/
def realText (value : Float) : String :=
  if value.isFinite then Decimal.Layout.document.write value else "null"

mutual

/-- The document without blanks. -/
def compact : Json → String
  | .null => "null"
  | .bool true => "true"
  | .bool false => "false"
  | .integer value => toString value
  | .real value => realText value
  | .text value => quoted value
  | .array items => "[" ++ String.intercalate "," (compactItems items) ++ "]"
  | .object members => "\x7b" ++ String.intercalate "," (compactMembers members) ++ "\x7d"
  | .unreadable => "null"

/-- The items of a list without blanks. -/
def compactItems : List Json → List String
  | [] => []
  | item :: items => compact item :: compactItems items

/-- The members of an object without blanks. -/
def compactMembers : List (String × Json) → List String
  | [] => []
  | (name, value) :: members => (quoted name ++ ":" ++ compact value) :: compactMembers members

end

/-- Writes entries between brackets, one a line; no entries are written without a line break. -/
def block (opening closing : String) (depth : Nat) (entries : List String) : String :=
  if entries.isEmpty then opening ++ closing
  else
    let inner := "\n" ++ String.ofList (List.replicate (2 * (depth + 1)) ' ')
    let outer := "\n" ++ String.ofList (List.replicate (2 * depth) ' ')
    opening ++ inner ++ String.intercalate ("," ++ inner) entries ++ outer ++ closing

mutual

/-- The document with one entry a line, at an indentation depth. -/
def indentedAt (depth : Nat) : Json → String
  | .array items => block "[" "]" depth (indentedItems (depth + 1) items)
  | .object members => block "\x7b" "\x7d" depth (indentedMembers (depth + 1) members)
  | .null => "null"
  | .bool true => "true"
  | .bool false => "false"
  | .integer value => toString value
  | .real value => realText value
  | .text value => quoted value
  | .unreadable => "null"

/-- The items of a list at an indentation depth. -/
def indentedItems (depth : Nat) : List Json → List String
  | [] => []
  | item :: items => indentedAt depth item :: indentedItems depth items

/-- The members of an object at an indentation depth. -/
def indentedMembers (depth : Nat) : List (String × Json) → List String
  | [] => []
  | (name, value) :: members =>
    (quoted name ++ ": " ++ indentedAt depth value) :: indentedMembers depth members

end

/-- The document with one entry a line. -/
def indented (document : Json) : String :=
  indentedAt 0 document

end VisualNovel.Json
