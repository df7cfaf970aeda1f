import VisualNovel.History
import VisualNovel.Text.Trim

/-!
# Presentation markup

Renderers leave attributes of their own in texts: those that begin with `data-v-` or `__v`. They
are taken out of the log before it is saved, together with the blanks in front of them.
-/

namespace VisualNovel.Markup

/-- Whether the character ends an attribute without quotation marks. -/
def endsAttribute (character : Char) : Bool :=
  isBlank character || character = '>'

/-- The characters of a mark behind `data-v-`. -/
def isMarkCharacter (character : Char) : Bool :=
  character.isDigit || ('a' ≤ character && character ≤ 'f')

/-- The length of an attribute value in quotation marks with its equality sign. -/
def quotedLength? : List Char → Option Nat
  | '=' :: '"' :: rest =>
    let content := rest.takeWhile fun character => character ≠ '"'
    if content.length < rest.length then some (content.length + 3) else none
  | _ => none

/-- The number of characters up to the end of an attribute without quotation marks. -/
def openLength (characters : List Char) : Nat :=
  (characters.takeWhile fun character => !endsAttribute character).length

/-- The length of what follows `data-v-`: at most eight characters of a mark, and a value in
quotation marks or all up to the end. -/
def markLength (characters : List Char) : Nat :=
  let mark := (characters.take 8).takeWhile isMarkCharacter
  let rest := characters.drop mark.length
  mark.length + (quotedLength? rest).getD (openLength rest)

/-- The length of an attribute at the front of a text. -/
def attributeLength? (characters : List Char) : Option Nat :=
  match Text.afterPrefix "data-v-".toList characters with
  | some rest => some (7 + markLength rest)
  | none => (Text.afterPrefix "__v".toList characters).map fun rest => 3 + openLength rest

/-- The length of an attribute at the front of a text and of the blanks before it. -/
def matchLength? (characters : List Char) : Option Nat :=
  let blanks := (characters.takeWhile isBlank).length
  (attributeLength? (characters.dropWhile isBlank)).map (blanks + ·)

/-- The characters without attributes, after some that are skipped. -/
def stripFrom : Nat → List Char → List Char
  | _, [] => []
  | skipped + 1, _ :: rest => stripFrom skipped rest
  | 0, character :: rest =>
    match matchLength? (character :: rest) with
    | some (length + 1) => stripFrom length rest
    | _ => character :: stripFrom 0 rest

/-- A text without the attributes of renderers. -/
def strip (text : String) : String :=
  String.ofList (stripFrom 0 text.toList)

/-- The log as it is saved: without attributes of renderers and without positions of steps. -/
def compactHistory (lines : List HistoryEntry) : List HistoryEntry :=
  lines.map fun line => { line with text := strip line.text, step := none }

end VisualNovel.Markup
