import VisualNovel.Decimal.Nearest
import VisualNovel.Decimal.Numeral
import VisualNovel.Json.Basic
import VisualNovel.Text.Trim

/-!
# Reading documents

A text is read as one document between blanks. A text that does not follow the grammar has no
document; a piece that follows it but stands for no value becomes `Json.unreadable`. Reals are
scaled from their leading digits by powers of ten, with one rounding a step.
-/

namespace VisualNovel.Json

/-- The blanks of the grammar. -/
def isSpace (character : Char) : Bool :=
  character = ' ' || character = '\n' || character = '\t' || character = '\r'

/-- The characters after leading blanks. -/
def skipSpace (characters : List Char) : List Char :=
  characters.dropWhile isSpace

/-- Arrays and objects may be nested this deep. -/
def nestingLimit : Nat := 127

/-- Takes digits into a significand while it stays a machine word; the rest is returned. -/
def absorbDigits (significand : Nat) : List Char → Nat × List Char
  | [] => (significand, [])
  | digit :: digits =>
    let next := 10 * significand + (digit.toNat - '0'.toNat)
    if next < Text.wordBound then absorbDigits next digits else (significand, digit :: digits)

/-- Multiplies by a power of ten. Steps beyond the greatest power divide by it first; a result
beyond the range of doubles is refused. -/
def scaleByTen : Nat → Float → Int → Option Float
  | 0, value, _ => some value
  | steps + 1, value, exponent =>
    if exponent.natAbs ≤ 308 then
      let power := Decimal.nearest 1 exponent.natAbs
      if exponent ≥ 0 then
        let product := value * power
        if product.isInf then none else some product
      else some (value / power)
    else if value == 0.0 then some value
    else if exponent ≥ 0 then none
    else scaleByTen steps (value / Decimal.nearest 1 308) (exponent + 308)

/-- The value of a numeral with a fraction, an exponent, or too many digits for a word. -/
def realValue? (whole fraction : List Char) (exponent : Int) : Option Float :=
  let (leading, dropped) := absorbDigits 0 whole
  let (significand, ignored) := absorbDigits leading fraction
  let shift : Int := (dropped.length : Int) - (fraction.length - ignored.length : Nat)
  scaleByTen 4 (UInt64.ofNat significand).toFloat (exponent + shift)

/-- The document of a numeral. -/
def numberValue (negative : Bool) (whole fraction : List Char) (exponent : Option Int) : Json :=
  let magnitude := Decimal.ofDigits whole
  if fraction.isEmpty && exponent.isNone && magnitude < Text.wordBound then
    if !negative then .integer magnitude
    else if magnitude ≠ 0 && magnitude ≤ 9223372036854775808 then .integer (-(magnitude : Int))
    else .real (-(UInt64.ofNat magnitude).toFloat)
  else
    match realValue? whole fraction (exponent.getD 0) with
    | some value => .real (if negative then -value else value)
    | none => .unreadable

/-- Reads the exponent of a numeral, when one follows. -/
def readExponent : List Char → Option (Option Int × List Char)
  | mark :: rest =>
    if mark = 'e' || mark = 'E' then
      let (negative, unsigned) := Decimal.splitSign rest
      let digits := unsigned.takeWhile Char.isDigit
      if digits.isEmpty then none
      else
        let value : Int := Decimal.ofDigits digits
        some (some (if negative then -value else value), unsigned.dropWhile Char.isDigit)
    else some (none, mark :: rest)
  | [] => some (none, [])

/-- Reads the fraction of a numeral, when a point follows. -/
def readFraction : List Char → Option (List Char × List Char)
  | '.' :: rest =>
    let digits := rest.takeWhile Char.isDigit
    if digits.isEmpty then none else some (digits, rest.dropWhile Char.isDigit)
  | characters => some ([], characters)

/-- Reads a number; a leading zero stands alone. -/
def readNumber (characters : List Char) : Option (Json × List Char) := do
  let (negative, unsigned) :=
    match characters with
    | '-' :: rest => (true, rest)
    | _ => (false, characters)
  let whole := unsigned.takeWhile Char.isDigit
  if whole.isEmpty || (whole.head? = some '0' && whole.length > 1) then none
  let (fraction, afterFraction) ← readFraction (unsigned.dropWhile Char.isDigit)
  let (exponent, rest) ← readExponent afterFraction
  some (numberValue negative whole fraction exponent, rest)

/-- The value of a hexadecimal digit. -/
def hexValue? (character : Char) : Option Nat :=
  if character.isDigit then some (character.toNat - '0'.toNat)
  else if 'a' ≤ character && character ≤ 'f' then some (character.toNat - 'a'.toNat + 10)
  else if 'A' ≤ character && character ≤ 'F' then some (character.toNat - 'A'.toNat + 10)
  else none

/-- Reads four hexadecimal digits. -/
def readHex : List Char → Option (Nat × List Char)
  | first :: second :: third :: fourth :: rest => do
    let high := 16 * (← hexValue? first) + (← hexValue? second)
    let low := 16 * (← hexValue? third) + (← hexValue? fourth)
    some (256 * high + low, rest)
  | _ => none

/-- A text being read: its characters in reverse, or nothing once it holds an unpaired
surrogate. -/
abbrev Draft := Option (List Char)

/-- Adds a character to a text being read. -/
def Draft.push (draft : Draft) (character : Char) : Draft :=
  draft.map (character :: ·)

/-- The characters that a backslash and a letter stand for. -/
def escapeValue? (character : Char) : Option Char :=
  match character with
  | '"' => some '"'
  | '\\' => some '\\'
  | '/' => some '/'
  | 'b' => some '\x08'
  | 'f' => some '\x0c'
  | 'n' => some '\n'
  | 'r' => some '\r'
  | 't' => some '\t'
  | _ => none

/-- Reads a text behind its opening quotation mark, up to and with the closing one. -/
def readText : Nat → Draft → List Char → Option (Draft × List Char)
  | 0, _, _ => none
  | steps + 1, draft, characters =>
    match characters with
    | [] => none
    | '"' :: rest => some (draft, rest)
    | '\\' :: 'u' :: rest => do
      let (unit, afterUnit) ← readHex rest
      if unit < 0xD800 || unit > 0xDFFF then
        readText steps (draft.push (Char.ofNat unit)) afterUnit
      else
        let pair : Option (Nat × List Char) :=
          match afterUnit with
          | '\\' :: 'u' :: next => readHex next
          | _ => none
        match pair with
        | some (low, afterPair) =>
          if unit < 0xDC00 && 0xDC00 ≤ low && low ≤ 0xDFFF then
            let point := 0x10000 + (unit - 0xD800) * 0x400 + (low - 0xDC00)
            readText steps (draft.push (Char.ofNat point)) afterPair
          else readText steps none afterUnit
        | none => readText steps none afterUnit
    | '\\' :: letter :: rest => do
      readText steps (draft.push (← escapeValue? letter)) rest
    | character :: rest =>
      if character = '\\' || character.toNat < 32 then none
      else readText steps (draft.push character) rest

/-- Reads a text behind its opening quotation mark. -/
def readQuoted (characters : List Char) : Option (Option String × List Char) :=
  (readText (characters.length + 1) (some []) characters).map fun (draft, rest) =>
    (draft.map fun reversed => String.ofList reversed.reverse, rest)

mutual

/-- Reads one document after blanks, inside `depth` arrays and objects. -/
def readValue : Nat → Nat → List Char → Option (Json × List Char)
  | 0, _, _ => none
  | fuel + 1, depth, characters =>
    match skipSpace characters with
    | 'n' :: 'u' :: 'l' :: 'l' :: rest => some (.null, rest)
    | 't' :: 'r' :: 'u' :: 'e' :: rest => some (.bool true, rest)
    | 'f' :: 'a' :: 'l' :: 's' :: 'e' :: rest => some (.bool false, rest)
    | '"' :: rest => do
      let (content, afterText) ← readQuoted rest
      some (content.elim .unreadable .text, afterText)
    | '[' :: rest => do
      let (items, afterItems) ←
        match skipSpace rest with
        | ']' :: next => some ([], next)
        | _ => readItems fuel (depth + 1) rest
      some (if depth < nestingLimit then .array items else .unreadable, afterItems)
    | '{' :: rest => do
      let (members, afterMembers) ←
        match skipSpace rest with
        | '}' :: next => some (some [], next)
        | _ => readMembers fuel (depth + 1) rest
      let document : Json := members.elim .unreadable .object
      some (if depth < nestingLimit then document else .unreadable, afterMembers)
    | next => readNumber next

/-- Reads the items of an array up to and with its closing bracket. -/
def readItems : Nat → Nat → List Char → Option (List Json × List Char)
  | 0, _, _ => none
  | fuel + 1, depth, characters => do
    let (item, afterItem) ← readValue fuel depth characters
    match skipSpace afterItem with
    | ',' :: rest => do
      let (items, afterItems) ← readItems fuel depth rest
      some (item :: items, afterItems)
    | ']' :: rest => some ([item], rest)
    | _ => none

/-- Reads the members of an object up to and with its closing brace; an unreadable name makes the
whole object unreadable. -/
def readMembers : Nat → Nat → List Char → Option (Option (List (String × Json)) × List Char)
  | 0, _, _ => none
  | fuel + 1, depth, characters =>
    match skipSpace characters with
    | '"' :: quotedName => do
      let (name, afterName) ← readQuoted quotedName
      match skipSpace afterName with
      | ':' :: afterColon => do
        let (value, afterValue) ← readValue fuel depth afterColon
        let member : Option (String × Json) := name.map (·, value)
        match skipSpace afterValue with
        | ',' :: rest => do
          let (members, afterMembers) ← readMembers fuel depth rest
          some ((member.bind fun first => members.map (first :: ·)), afterMembers)
        | '}' :: rest => some (member.map fun only => [only], rest)
        | _ => none
      | _ => none
    | _ => none

end

/-- Reads a text as one document. -/
def read? (text : String) : Option Json := do
  let characters := text.toList
  let (document, rest) ← readValue (2 * characters.length + 2) 0 characters
  if (skipSpace rest).isEmpty then some document else none

end VisualNovel.Json
