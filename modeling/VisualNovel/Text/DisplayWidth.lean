import VisualNovel.Text.CharacterWidth
import VisualNovel.Text.Emoji

/-!
# Columns on a terminal

This module holds the number of columns that a text takes. A character in front of what it is joined
with may be narrower or wider than it is alone: a letter in a ligature, an emoji in front of a
joiner, a modifier or a selector, a pair of regional indicators. A text is therefore measured from
its end. What stands behind a character is kept as a context, and each character adds columns and
makes the context of the character in front of it.
-/

namespace VisualNovel.DisplayWidth

open CharacterClass

/-- The zero width joiner. -/
def joiner : Nat := 0x200D

/-- A variation selector that waits for its character. -/
inductive Selector where
  /-- The character is shown as an emoji. -/
  | emoji
  /-- The character is shown as text. -/
  | text
  /-- The character is a quotation mark of two columns. -/
  | quotation
  deriving DecidableEq

/-- A letter that may form a ligature with letters in front of it. -/
inductive Letter where
  /-- The Hebrew lamed, which alef joins. -/
  | lamed
  /-- The Buginese ya. -/
  | ya
  /-- The Buginese ya with the vowel sign in front of it. -/
  | vowelledYa
  /-- A consonant of Tifinagh. -/
  | consonant
  /-- A consonant of Tifinagh with the consonant joiner in front of it. -/
  | joinedConsonant
  /-- A tone letter of Lisu that ends a pair. -/
  | tone
  /-- The Old Turkic letter i. -/
  | orkhonVowel
  /-- A letter of Khmer that is written below another. -/
  | subscript
  /-- The Kirat Rai vowel sign e. -/
  | vowelE
  /-- The Kirat Rai vowel sign ai. -/
  | vowelAi
  deriving DecidableEq

/-- The beginning of a sequence of emoji. -/
inductive EmojiHead where
  /-- An emoji. -/
  | emoji
  /-- A modifier of skin colour. -/
  | modifier
  /-- A regional indicator. -/
  | indicator
  /-- Regional indicators, at least two. -/
  | indicators
  /-- A joiner with an emoji behind it. -/
  | joined
  /-- The frame of a keycap in front of a joiner. -/
  | keycap
  /-- Regional indicators in front of a joiner. -/
  | joinedIndicators (count : Nat)
  /-- Tag letters, which end in front of a joiner. -/
  | tagLetters (count : Nat)
  /-- Tag digits, with tag letters behind them. -/
  | tagDigits (count : Nat)
  deriving DecidableEq

/-- What stands behind a character, as far as the columns of the character depend on it. -/
inductive Following where
  /-- Nothing that matters. -/
  | nothing
  /-- The Arabic alef, which lam joins. -/
  | alef
  /-- A letter, perhaps with a joiner in front of it. -/
  | letter (kind : Letter) (joined : Bool)
  /-- The beginning of a sequence of emoji. -/
  | emoji (head : EmojiHead)
  deriving DecidableEq

/-- What stands behind a character, with the selector that waits for it. -/
structure Context where
  /-- The selector. -/
  selector : Option Selector
  /-- What stands behind the selector. -/
  following : Following
  deriving DecidableEq

namespace Following

/-- Consonants of Tifinagh. -/
def consonantRanges : List (Nat × Nat) := [(0x2D31, 0x2D65), (0x2D6F, 0x2D6F)]

/-- Letters of Khmer that may be written below another. -/
def subscriptRanges : List (Nat × Nat) := [
    (0x1780, 0x1782), (0x1784, 0x1787), (0x1789, 0x178C), (0x178E, 0x1793), (0x1795, 0x1798),
    (0x179B, 0x179D), (0x17A0, 0x17A0), (0x17A2, 0x17A2), (0x17A7, 0x17A7), (0x17AB, 0x17AC),
    (0x17AF, 0x17AF)]

/-- Forms of the Arabic letter alef. -/
def alefRanges : List (Nat × Nat) := [
    (0x622, 0x623), (0x625, 0x625), (0x627, 0x627), (0x671, 0x673), (0x675, 0x675),
    (0x773, 0x774), (0x870, 0x882)]

/-- Forms of the Arabic letter lam. -/
def lamRanges : List (Nat × Nat) := [
    (0x644, 0x644), (0x6B5, 0x6B8), (0x76A, 0x76A), (0x8A6, 0x8A6), (0x8C7, 0x8C7)]

/-- Which letter a character is. -/
def letters : List (List (Nat × Nat) × Letter) := [
    ([(0x5DC, 0x5DC)], .lamed), ([(0x1A10, 0x1A10)], .ya), (consonantRanges, .consonant),
    ([(0xA4FC, 0xA4FD)], .tone), ([(0x10C03, 0x10C03)], .orkhonVowel),
    (subscriptRanges, .subscript), ([(0x16D67, 0x16D67)], .vowelE),
    ([(0x16D68, 0x16D68)], .vowelAi)]

/-- What a character is to the character in front of it, whatever follows. -/
def ofChar (character : Char) : Following :=
  let point := character.toNat
  if Emoji.hasPresentation character then .emoji .emoji
  else if Emoji.isModifier character then .emoji .modifier
  else if Emoji.isRegionalIndicator character then .emoji .indicator
  else if covers alefRanges point then .alef
  else
    match letters.find? fun entry => covers entry.1 point with
    | some (_, kind) => .letter kind false
    | none => .nothing

/-- What a selector leaves in sight: letters keep forming ligatures across it. -/
def acrossSelector : Following → Following
  | .alef => .alef
  | .letter kind joined => .letter kind joined
  | _ => .nothing

/-- What the selector of an emoji leaves in sight: also the joiner of a sequence. -/
def acrossEmojiSelector : Following → Following
  | .emoji .joined => .emoji .joined
  | .emoji .keycap => .emoji .keycap
  | following => following.acrossSelector

end Following

namespace Letter

/-- The columns that a character adds in front of a letter, and what the two are together, where
they form a ligature or part of one. Lamed, ya, the Old Turkic i and two consonants of Tifinagh need
a joiner. -/
def before? (character : Char) (joined : Bool) (letter : Letter) : Option (Int × Following) :=
  let point := character.toNat
  match letter with
  | .lamed => if joined && point = 0x5D0 then some (0, .nothing) else none
  | .ya => if joined && point = 0x1A17 then some (0, .letter .vowelledYa true) else none
  | .vowelledYa => if point = 0x1A15 then some (0, .nothing) else none
  | .consonant =>
    if point = 0x2D7F then some (1, .letter .joinedConsonant true)
    else if joined && covers Following.consonantRanges point then some (0, .nothing)
    else none
  | .joinedConsonant =>
    if covers Following.consonantRanges point then some (-1, .nothing) else none
  | .tone => if covers [(0xA4F8, 0xA4FB)] point then some (0, .nothing) else none
  | .orkhonVowel => if joined && point = 0x10C32 then some (0, .nothing) else none
  | .subscript => if point = 0x17D2 then some (-1, .nothing) else none
  | .vowelE =>
    if point = 0x16D63 || point = 0x16D69 then some (0, .nothing)
    else if point = 0x16D67 then some (0, .letter .vowelAi false)
    else if point = 0x16D68 then some (1, .letter .vowelE false)
    else none
  | .vowelAi => if point = 0x16D63 then some (0, .nothing) else none

end Letter

namespace EmojiHead

/-- The sequence with a character in front of tags, where the character is a tag or the flag that
they belong to. A region has three to six letters, or three digits in front of at most four. -/
def tagged? (character : Char) (letters : Nat) (digits : Nat) : Option EmojiHead :=
  let point := character.toNat
  if covers [(0xE0061, 0xE007A)] point && digits = 0 && letters < 6 then
    some (.tagLetters (letters + 1))
  else if covers [(0xE0030, 0xE0039)] point && letters < 5 && digits < 3 then
    some (.tagDigits (digits + 1))
  else if point = 0x1F3F4 && (2 < letters || digits = 3) then some .emoji
  else none

/-- The columns that a character adds in front of a sequence of emoji, and the sequence with it,
where the character belongs to the sequence. -/
def before? (character : Char) (head : EmojiHead) : Option (Int × EmojiHead) :=
  let point := character.toNat
  match head with
  | .emoji => if point = joiner then some (0, .joined) else none
  | .modifier =>
    if Emoji.isModifierBase character then some (0, .emoji)
    else if point = joiner then some (0, .joined)
    else none
  | .indicator => if Emoji.isRegionalIndicator character then some (1, .indicators) else none
  | .indicators =>
    if Emoji.isRegionalIndicator character then some (1, .indicators)
    else if point = joiner then some (0, .joined)
    else none
  | .joined =>
    if point = 0x20E3 then some (0, .keycap)
    else if Emoji.isRegionalIndicator character then some (1, .joinedIndicators 1)
    else if Emoji.isModifier character then some (0, .modifier)
    else if point = 0xE007F then some (0, .tagLetters 0)
    else if Emoji.hasPresentation character then some (0, .emoji)
    else none
  | .keycap => none
  | .joinedIndicators count =>
    if Emoji.isRegionalIndicator character then
      some (if count % 2 = 1 then -1 else 3, .joinedIndicators (count + 1))
    else if point = joiner && count ≠ 1 then some (0, .joined)
    else none
  | .tagLetters count => (tagged? character count 0).map (0, ·)
  | .tagDigits count => (tagged? character 0 count).map (0, ·)

end EmojiHead

namespace Context

/-- The context of the last character. -/
def last : Context := ⟨none, .nothing⟩

/-- The columns that a character adds in front of something, and what the two are together. -/
def joinChar (following : Following) (character : Char) : Int × Following :=
  let joined? : Option (Int × Following) :=
    match following with
    | .nothing => none
    | .alef =>
      if covers Following.lamRanges character.toNat then some (0, .nothing)
      else if CharacterWidth.isTransparent character then some (0, .alef)
      else none
    | .letter kind joined =>
      if character.toNat = joiner then some (0, .letter kind true)
      else if CharacterWidth.isIgnorableMark character then some (0, .letter kind joined)
      else kind.before? character joined
    | .emoji head => (head.before? character).map fun (columns, head) => (columns, .emoji head)
  joined?.getD (CharacterWidth.ofChar character, .ofChar character)

/-- The columns that a character adds in front of its context, and the context of the character in
front of it. -/
def push (context : Context) (character : Char) : Int × Context :=
  let shown? : Option (Int × Context) :=
    match context.selector with
    | some .emoji =>
      if Emoji.takesEmojiSelector character then
        let isJoined := context.following = .emoji .joined || context.following = .emoji .keycap
        some (if isJoined then 0 else 2, ⟨none, .emoji .emoji⟩)
      else none
    | some .text => if Emoji.takesTextSelector character then some (1, last) else none
    | some .quotation =>
      if covers [(0x2018, 0x2019), (0x201C, 0x201D)] character.toNat then some (2, last) else none
    | none => none
  let following :=
    if context.selector.isSome then context.following.acrossSelector else context.following
  shown?.getD
    (match character.toNat with
    | 0xFE0F => (0, ⟨some .emoji, following.acrossEmojiSelector⟩)
    | 0xFE0E => (0, ⟨some .text, following.acrossSelector⟩)
    | 0xFE01 => (0, ⟨some .quotation, following.acrossSelector⟩)
    | _ =>
      let (columns, following) := joinChar following character
      (columns, ⟨none, following⟩))

end Context

/-- The columns of characters, and the context that they make for a character in front of them. -/
def measure (characters : List Char) : Int × Context :=
  characters.foldr (fun character (columns, context) =>
    let (added, context) := context.push character
    (columns + added, context)) (0, .last)

@[simp] theorem measure_nil : measure [] = (0, .last) := rfl

/-- The columns of a text. -/
def ofString (text : String) : Nat :=
  (measure text.toList).1.toNat

end VisualNovel.DisplayWidth
