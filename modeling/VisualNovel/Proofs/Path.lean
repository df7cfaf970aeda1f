import VisualNovel.Path
import VisualNovel.Proofs.Json.Numbers
import VisualNovel.Proofs.Lists
import VisualNovel.Proofs.Text.Trim

/-!
# Paths as they are written

A path is written as its parts with dots between them, and a part as its key and its selectors, each
in brackets. What is written so is read back, and a text is refused exactly when one of its parts is
faulty.
-/

namespace VisualNovel

namespace Segment

/-! ## Keys and selectors -/

/-- The name stands for a key in a path: it is not empty, has no blank at either end, and none of
the characters that divide a path. -/
structure IsKey (name : String) : Prop where
  some_text : name ≠ ""
  first : ∀ character ∈ name.toList.head?, isBlank character = false
  last : ∀ character ∈ name.toList.getLast?, isBlank character = false
  undivided : '.' ∉ name.toList
  unopened : '[' ∉ name.toList
  unclosed : ']' ∉ name.toList

instance (name : String) : Decidable (IsKey name) :=
  decidable_of_iff
    (name ≠ "" ∧ (name.toList.head?.all fun character => !isBlank character) = true ∧
      (name.toList.getLast?.all fun character => !isBlank character) = true ∧
      '.' ∉ name.toList ∧ '[' ∉ name.toList ∧ ']' ∉ name.toList)
    (by
      simp only [Option.all_eq_true, Bool.not_eq_true']
      exact ⟨fun ⟨some_text, first, last, undivided, unopened, unclosed⟩ =>
          ⟨some_text, first, last, undivided, unopened, unclosed⟩,
        fun isKey => ⟨isKey.some_text, isKey.first, isKey.last, isKey.undivided, isKey.unopened,
          isKey.unclosed⟩⟩)

/-- The characters can stand in the brackets of a selector. -/
structure IsContent (content : List Char) : Prop where
  proper : content ≠ []
  tight : Text.Tight content
  undivided : '.' ∉ content
  unclosed : ']' ∉ content

/-- The text stands for an element in a selector: it is no numeral of a position, and no pair of
quotation marks is taken off it. -/
structure IsIdentifier (identifier : String) : Prop where
  isContent : IsContent identifier.toList
  no_position : Text.boundedNumeral? Text.wordBound identifier.toList = none
  unquoted : ∀ mark ∈ ['"', '\''], ∀ inner, identifier.toList ≠ mark :: (inner ++ [mark])

/-- The segment can be written as a selector. -/
def IsSelector : Segment → Prop
  | .key _ => False
  | .index position => position < Text.wordBound
  | .element identifier => IsIdentifier identifier

variable {name identifier : String} {selector : Segment} {content rest : List Char}

theorem IsKey.toList_ne_nil (isKey : IsKey name) : name.toList ≠ [] :=
  fun empty => isKey.some_text (String.toList_eq_nil_iff.1 empty)

theorem IsKey.tight (isKey : IsKey name) : Text.Tight name.toList :=
  ⟨isKey.first, isKey.last⟩

theorem isBlank_of_isDigit {character : Char} (digit : character.isDigit = true) :
    isBlank character = false := by
  obtain ⟨low, high⟩ := Char.isDigit_iff_toNat.1 digit
  have above : 48 ≤ character.toNat := low
  have below : character.toNat ≤ 57 := high
  simp only [isBlank, CharacterClass.covers, CharacterClass.blankRanges, List.any_cons,
    List.any_nil, Bool.or_eq_false_iff, Bool.and_eq_false_iff, decide_eq_false_iff_not, and_true]
  omega

theorem isContent_digits (number : Nat) : IsContent (Nat.toDigits 10 number) := by
  have digit : ∀ character ∈ Nat.toDigits 10 number, character.isDigit = true :=
    fun _ => Nat.isDigit_of_mem_toDigits (by decide) (by decide)
  refine ⟨Nat.toDigits_ne_nil, ⟨?_, ?_⟩, ?_, ?_⟩
  · exact fun character first => isBlank_of_isDigit (digit character (List.mem_of_mem_head? first))
  · exact fun character last => isBlank_of_isDigit (digit character (List.mem_of_getLast? last))
  · intro dot
    cases digit '.' dot
  · intro closing
    cases digit ']' closing

theorem betweenMarks?_eq_none {mark : Char} {characters : List Char}
    (unquoted : ∀ inner, characters ≠ mark :: (inner ++ [mark])) :
    betweenMarks? mark characters = none := by
  cases characters with
  | nil => rfl
  | cons opening rest =>
      rw [betweenMarks?]
      cases turned : rest.reverse with
      | nil => rfl
      | cons closing reversed =>
          have shape : rest = reversed.reverse ++ [closing] := by
            rw [← List.reverse_cons, ← turned, List.reverse_reverse]
          have different : ¬(opening = mark ∧ closing = mark) := by
            rintro ⟨rfl, rfl⟩
            exact unquoted reversed.reverse (shape ▸ rfl)
          simpa using fun same other => different ⟨same, other⟩

/-- What stands in the brackets of a selector. -/
theorem IsSelector.isContent (isSelector : selector.IsSelector) :
    IsContent selector.mapKey.toList := by
  cases selector with
  | key name => cases isSelector
  | index position =>
      rw [show (mapKey (.index position)).toList = Nat.toDigits 10 position from Nat.toList_repr]
      exact isContent_digits position
  | element identifier => exact IsIdentifier.isContent isSelector

/-- A selector is read back from what stands in its brackets. -/
theorem IsSelector.ofSelector (isSelector : selector.IsSelector) :
    ofSelector selector.mapKey.toList = selector := by
  cases selector with
  | key name => cases isSelector
  | index position =>
      have digits : (mapKey (.index position)).toList = Nat.toDigits 10 position := Nat.toList_repr
      rw [Segment.ofSelector, digits, Json.boundedNumeral?_toDigits isSelector]
  | element identifier =>
      have isIdentifier : IsIdentifier identifier := isSelector
      have double := betweenMarks?_eq_none (isIdentifier.unquoted '"' (by simp))
      have single := betweenMarks?_eq_none (isIdentifier.unquoted '\'' (by simp))
      simp only [Segment.ofSelector, mapKey, isIdentifier.no_position, double, single,
        Option.or_none, Option.getD_none, String.ofList_toList]

theorem IsSelector.toList_display (isSelector : selector.IsSelector) :
    selector.display.toList = '[' :: (selector.mapKey.toList ++ [']']) := by
  cases selector with
  | key name => cases isSelector
  | index position => simp [display, mapKey]
  | element identifier => simp [display, mapKey]

/-! ## Selectors one after another -/

/-- Contents in brackets, one after another. -/
def bracketed (contents : List (List Char)) : List Char :=
  contents.flatMap fun content => '[' :: (content ++ [']'])

@[simp] theorem bracketed_nil : bracketed [] = [] := rfl

@[simp] theorem bracketed_cons (content : List Char) (contents : List (List Char)) :
    bracketed (content :: contents) = '[' :: (content ++ ']' :: bracketed contents) := by
  simp [bracketed]

/-- An open selector takes in characters up to a closing bracket. -/
theorem selectors?_content (reversed : List Char) (unclosed : ']' ∉ content) :
    selectors? (some reversed) (content ++ rest) =
      selectors? (some (content.reverse ++ reversed)) rest := by
  induction content generalizing reversed with
  | nil => rfl
  | cons character content ih =>
      obtain ⟨different, unclosed⟩ := not_or.1 (mt List.mem_cons.2 unclosed)
      rw [List.cons_append, selectors?, if_neg (Ne.symm different), ih _ unclosed,
        List.reverse_cons, List.append_assoc, List.singleton_append]

theorem selectors?_unclosed (unclosed : ']' ∉ content) :
    selectors? none ('[' :: content) = none := by
  have taken : selectors? (some []) (content ++ []) = _ := selectors?_content [] unclosed
  rw [List.append_nil] at taken
  rw [selectors?, if_pos rfl, taken, selectors?]

theorem selectors?_closed (unclosed : ']' ∉ content) :
    selectors? none ('[' :: (content ++ ']' :: rest)) =
      if Text.trim content = [] then none
      else (selectors? none rest).map (Segment.ofSelector (Text.trim content) :: ·) := by
  rw [selectors?, if_pos rfl, selectors?_content [] unclosed, selectors?, if_pos rfl]
  simp only [List.append_nil, List.reverse_reverse, List.isEmpty_iff]

theorem selectors?_unopened {character : Char} (other : character ≠ '[') :
    selectors? none (character :: rest) = none := by
  rw [selectors?, if_neg other]

/-- What is written as selectors is read as them. -/
theorem selectors?_bracketed {selectors : List Segment}
    (areSelectors : ∀ selector ∈ selectors, selector.IsSelector) :
    selectors? none (bracketed (selectors.map fun selector => selector.mapKey.toList)) =
      some selectors := by
  induction selectors with
  | nil => rfl
  | cons selector selectors ih =>
      obtain ⟨first, others⟩ := List.forall_mem_cons.1 areSelectors
      have isContent := first.isContent
      rw [List.map_cons, bracketed_cons, selectors?_closed isContent.unclosed,
        isContent.tight.trim_eq_self, if_neg isContent.proper, ih others, first.ofSelector]
      rfl

/-- How characters begin that are read as selectors. -/
inductive Selecting : List Char → Prop where
  | finished : Selecting []
  | unopened {character : Char} (rest : List Char) : character ≠ '[' → Selecting (character :: rest)
  | unclosed {content : List Char} : ']' ∉ content → Selecting ('[' :: content)
  | selector {content rest : List Char} :
      ']' ∉ content → Selecting rest → Selecting ('[' :: (content ++ ']' :: rest))

theorem selecting (characters : List Char) : Selecting characters := by
  induction length : characters.length using Nat.strongRecOn generalizing characters with
  | ind size ih =>
      cases characters with
      | nil => exact .finished
      | cons character rest =>
          by_cases opens : character = '['
          · subst opens
            by_cases closed : ']' ∈ rest
            · obtain ⟨content, after, rfl, unclosed⟩ := List.eq_append_cons_of_mem closed
              refine .selector unclosed (ih after.length ?_ after rfl)
              simp only [← length, List.length_cons, List.length_append]
              omega
            · exact .unclosed closed
          · exact .unopened rest opens

/-- No selector is a key. -/
theorem key_notMem_of_selectors? {segments : List Segment} {characters : List Char}
    (read : selectors? none characters = some segments) : .key name ∉ segments := by
  induction selecting characters generalizing segments with
  | finished =>
      cases read
      exact List.not_mem_nil
  | unopened rest other => rw [selectors?_unopened other] at read; cases read
  | unclosed unclosed => rw [selectors?_unclosed unclosed] at read; cases read
  | selector unclosed _ ih =>
      rw [selectors?_closed unclosed] at read
      split at read
      · cases read
      · obtain ⟨others, later, rfl⟩ := Option.map_eq_some_iff.1 read
        rw [List.mem_cons, not_or]
        refine ⟨?_, ih later⟩
        simp only [Segment.ofSelector]
        split <;> simp

/-! ## Faults -/

/-- No selector can be read at the front of the characters: they begin with something else than an
opening bracket, no bracket closes the selector, or there is nothing but blanks in it. -/
inductive Breaks : List Char → Prop where
  | unopened {character : Char} (rest : List Char) : character ≠ '[' → Breaks (character :: rest)
  | unclosed {content : List Char} : ']' ∉ content → Breaks ('[' :: content)
  | blank {content : List Char} (rest : List Char) :
      (∀ character ∈ content, isBlank character = true) → Breaks ('[' :: (content ++ ']' :: rest))

theorem Breaks.selectors? {characters : List Char} (breaks : Breaks characters) :
    selectors? none characters = none := by
  cases breaks with
  | unopened rest other => exact selectors?_unopened other
  | unclosed unclosed => exact selectors?_unclosed unclosed
  | blank rest blank =>
      have unclosed : ']' ∉ _ := fun closing => by cases blank ']' closing
      rw [selectors?_closed unclosed, if_pos (Text.trim_eq_nil_iff.2 blank)]

/-- Selectors are refused when, behind some brackets that are closed, no selector can be read. -/
theorem selectors?_eq_none_iff {characters : List Char} :
    selectors? none characters = none ↔
      ∃ contents rest, (∀ content ∈ contents, ']' ∉ content) ∧
        characters = bracketed contents ++ rest ∧ Breaks rest := by
  constructor
  · intro refused
    induction selecting characters with
    | finished => cases refused
    | unopened rest other => exact ⟨[], _, by simp, rfl, .unopened rest other⟩
    | unclosed unclosed => exact ⟨[], _, by simp, rfl, .unclosed unclosed⟩
    | @selector content rest unclosed _ ih =>
        by_cases blank : Text.trim content = []
        · exact ⟨[], _, by simp, rfl, .blank rest (Text.trim_eq_nil_iff.1 blank)⟩
        · rw [selectors?_closed unclosed, if_neg blank, Option.map_eq_none_iff] at refused
          obtain ⟨contents, tail, closed, shape, breaks⟩ := ih refused
          refine ⟨content :: contents, tail, List.forall_mem_cons.2 ⟨unclosed, closed⟩, ?_, breaks⟩
          rw [shape, bracketed_cons, List.cons_append, List.append_assoc, List.cons_append]
  · rintro ⟨contents, rest, closed, rfl, breaks⟩
    induction contents with
    | nil => exact breaks.selectors?
    | cons content contents ih =>
        obtain ⟨unclosed, closed⟩ := List.forall_mem_cons.1 closed
        rw [bracketed_cons, List.cons_append, List.append_assoc, List.cons_append,
          selectors?_closed unclosed, ih closed]
        split <;> rfl

/-- The characters of a part in front of its first bracket. -/
def keyOf (part : List Char) : List Char :=
  part.takeWhile fun character => character ≠ '['

/-- What is wrong with a part that is refused: it has no key, there is a closing bracket in its key,
or no selector can be read behind the key or behind a closing bracket. -/
inductive Faulty (part : List Char) : Prop where
  | no_key : keyOf part = [] → Faulty part
  | closed_key : ']' ∈ keyOf part → Faulty part
  | selector (contents : List (List Char)) (rest : List Char) :
      (∀ content ∈ contents, ']' ∉ content) → part = keyOf part ++ bracketed contents ++ rest →
      Breaks rest → Faulty part

theorem keyOf_append {key : List Char} (unopened : '[' ∉ key) (contents : List (List Char)) :
    keyOf (key ++ bracketed contents) = key ∧
      (key ++ bracketed contents).dropWhile (fun character => character ≠ '[') =
        bracketed contents := by
  have inside : ∀ character ∈ key, decide (character ≠ '[') = true := by
    intro character member
    exact decide_eq_true fun same => unopened (same ▸ member)
  have outside : ∀ character ∈ (bracketed contents).head?, decide (character ≠ '[') = false := by
    cases contents with
    | nil => exact fun character absent => by cases absent
    | cons content contents =>
        intro character first
        rw [bracketed_cons] at first
        cases first
        rfl
  exact ⟨Text.takeWhile_append inside outside, Text.dropWhile_append inside outside⟩

theorem tight_bracketed {key : List Char} (tight : Text.Tight key) (proper : key ≠ [])
    (contents : List (List Char)) : Text.Tight (key ++ bracketed contents) := by
  rcases List.eq_nil_or_concat contents with rfl | ⟨front, last, rfl⟩
  · rwa [bracketed_nil, List.append_nil]
  · have shape : bracketed (front ++ [last]) = (bracketed front ++ '[' :: last) ++ [']'] := by
      simp [bracketed]
    have closing : Text.Tight [']'] := by
      constructor <;>
      · intro character member
        cases member
        rfl
    rw [List.concat_eq_append, shape]
    exact tight.around closing proper (List.cons_ne_nil ']' [])

/-- How a part is read. -/
theorem ofPart?_eq (part : List Char) :
    ofPart? part =
      if keyOf (Text.trim part) = [] ∨ ']' ∈ keyOf (Text.trim part) then none
      else
        (selectors? none ((Text.trim part).dropWhile fun character => character ≠ '[')).map
          (.key (String.ofList (keyOf (Text.trim part))) :: ·) := by
  simp [ofPart?, keyOf]

/-- A part is refused when it is faulty without the blanks at its ends. -/
theorem ofPart?_eq_none_iff {part : List Char} :
    ofPart? part = none ↔ Faulty (Text.trim part) := by
  have whole : keyOf (Text.trim part) ++
      (Text.trim part).dropWhile (fun character => character ≠ '[') = Text.trim part :=
    List.takeWhile_append_dropWhile
  rw [ofPart?_eq]
  constructor
  · intro refused
    split at refused
    · rename_i wrong
      exact wrong.elim .no_key .closed_key
    · obtain ⟨contents, rest, closed, shape, breaks⟩ :=
        selectors?_eq_none_iff.1 (Option.map_eq_none_iff.1 refused)
      rw [shape, ← List.append_assoc] at whole
      exact .selector contents rest closed whole.symm breaks
  · intro faulty
    split
    · rfl
    · rename_i sound
      cases faulty with
      | no_key no_key => exact absurd (.inl no_key) sound
      | closed_key closed => exact absurd (.inr closed) sound
      | selector contents rest closed shape breaks =>
          rw [List.append_assoc] at shape
          have tail := List.append_cancel_left (whole.trans shape)
          rw [selectors?_eq_none_iff.2 ⟨contents, rest, closed, tail, breaks⟩]
          rfl

/-- A part that is read begins with its key, and has no other. -/
theorem ofPart?_eq_some {part : List Char} {segments : List Segment}
    (read : ofPart? part = some segments) :
    ∃ selectors, segments = .key (String.ofList (keyOf (Text.trim part))) :: selectors ∧
      keyOf (Text.trim part) ≠ [] ∧ ']' ∉ keyOf (Text.trim part) ∧
        ∀ name, .key name ∉ selectors := by
  rw [ofPart?_eq] at read
  split at read
  · cases read
  · rename_i sound
    obtain ⟨some_key, unclosed⟩ := not_or.1 sound
    obtain ⟨selectors, selected, rfl⟩ := Option.map_eq_some_iff.1 read
    exact ⟨selectors, rfl, some_key, unclosed, fun _ => key_notMem_of_selectors? selected⟩

/-- The key of a part has no bracket, and no dot when the part has none. -/
theorem notMem_keyOf (part : List Char) :
    '[' ∉ keyOf part ∧ ('.' ∉ part → '.' ∉ keyOf part) := by
  constructor
  · intro opening
    simpa using List.mem_takeWhile_imp opening
  · exact fun undivided dot => undivided ((List.takeWhile_prefix _).subset dot)

end Segment

namespace Path

/-! ## Written paths -/

/-- A part of a path as it is written. -/
structure Part where
  /-- The key. -/
  key : String
  /-- The selectors behind the key. -/
  selectors : List Segment
  isKey : Segment.IsKey key
  areSelectors : ∀ selector ∈ selectors, selector.IsSelector

namespace Part

/-- The segments of the part. -/
def segments (part : Part) : List Segment := .key part.key :: part.selectors

/-- The text of the part. -/
def display (part : Part) : String := String.join (part.segments.map Segment.display)

variable (part : Part)

/-- A part is its key with its selectors in brackets behind it. -/
theorem toList_display : part.display.toList = part.key.toList ++
    Segment.bracketed (part.selectors.map fun selector => selector.mapKey.toList) := by
  have listed : (part.selectors.map Segment.display).flatMap String.toList =
      Segment.bracketed (part.selectors.map fun selector => selector.mapKey.toList) := by
    simp only [Segment.bracketed, List.flatMap_map]
    exact List.flatMap_congr fun selector member =>
      (part.areSelectors selector member).toList_display
  rw [display, segments, List.map_cons, String.toList_join, List.flatMap_cons, listed]
  rfl

theorem proper_display : part.display.toList ≠ [] := by
  rw [toList_display]
  exact List.append_ne_nil_of_left_ne_nil part.isKey.toList_ne_nil _

theorem tight_display : Text.Tight part.display.toList := by
  rw [toList_display]
  exact Segment.tight_bracketed part.isKey.tight part.isKey.toList_ne_nil _

theorem undivided_display : '.' ∉ part.display.toList := by
  rw [toList_display, List.mem_append, not_or]
  refine ⟨part.isKey.undivided, fun dot => ?_⟩
  simp only [Segment.bracketed, List.flatMap_map, List.mem_flatMap] at dot
  obtain ⟨selector, member, dot⟩ := dot
  have undivided := (part.areSelectors selector member).isContent.undivided
  simp [undivided] at dot

/-- A part is read back from its text. -/
theorem ofPart?_display : Segment.ofPart? part.display.toList = some part.segments := by
  obtain ⟨key, tail⟩ := Segment.keyOf_append part.isKey.unopened
    (part.selectors.map fun selector => selector.mapKey.toList)
  have sound : ¬(part.key.toList = [] ∨ ']' ∈ part.key.toList) :=
    not_or.2 ⟨part.isKey.toList_ne_nil, part.isKey.unclosed⟩
  rw [Segment.ofPart?_eq, part.tight_display.trim_eq_self, toList_display, key, tail, if_neg sound,
    Segment.selectors?_bracketed part.areSelectors, String.ofList_toList]
  rfl

end Part

/-- The text of a path with the parts. -/
def written (parts : List Part) : String := ".".intercalate (parts.map Part.display)

variable {parts : List Part}

theorem toList_written (parts : List Part) :
    (written parts).toList = ['.'].intercalate (parts.map fun part => part.display.toList) := by
  rw [written, String.toList_intercalate, List.map_map]
  rfl

/-- A path is read back from its text. -/
theorem parse?_of_written (some_part : parts ≠ []) :
    parse? (written parts) = some ⟨written parts, parts.flatMap Part.segments⟩ := by
  have some_text : (parts.map fun part => part.display.toList) ≠ [] :=
    mt List.map_eq_nil_iff.1 some_part
  obtain ⟨tight, proper⟩ := Text.tight_intercalate ['.'] some_text
    (List.forall_mem_map.2 fun part _ => ⟨part.tight_display, part.proper_display⟩)
  have divided : Text.splitOn '.' (['.'].intercalate (parts.map fun part => part.display.toList)) =
      parts.map fun part => part.display.toList := by
    rw [Text.splitOn_eq]
    exact List.splitOn_intercalate '.' (List.forall_mem_map.2 fun part _ => part.undivided_display)
      some_text
  have read : (parts.map fun part => part.display.toList).mapM Segment.ofPart? =
      some (parts.map Part.segments) := by
    rw [List.mapM_map]
    exact mapM_eq_some fun part _ => part.ofPart?_display
  simp only [parse?]
  rw [toList_written, tight.trim_eq_self, divided, read, if_neg (by simpa using proper)]
  simp only [Option.map_some, ← toList_written, String.ofList_toList, List.flatMap_def]

/-! ## Paths that are read -/

variable {text : String} {path : Path}

/-- A path is refused when nothing but blanks is there, or one of its parts is faulty. -/
theorem parse?_eq_none_iff : parse? text = none ↔
    Text.trim text.toList = [] ∨
      ∃ part ∈ (Text.trim text.toList).splitOn '.', Segment.Faulty (Text.trim part) := by
  simp only [parse?, Text.splitOn_eq, List.isEmpty_iff]
  split
  · rename_i empty
    exact ⟨fun _ => .inl empty, fun _ => rfl⟩
  · rename_i proper
    simp only [Option.map_eq_none_iff, mapM_eq_none_iff, Segment.ofPart?_eq_none_iff, proper,
      false_or]

/-- The segments of a path are those of its parts, and there is a first part. -/
theorem segments_of_parse? (read : parse? text = some path) :
    ∃ first parts, path.segments = (first :: parts).flatten ∧
      ∀ segments ∈ first :: parts, ∃ part ∈ Text.splitOn '.' (Text.trim text.toList),
        Segment.ofPart? part = some segments := by
  simp only [parse?] at read
  split at read
  · cases read
  · obtain ⟨parts, decoded, rfl⟩ := Option.map_eq_some_iff.1 read
    cases parts with
    | nil =>
        cases divided : Text.splitOn '.' (Text.trim text.toList) with
        | nil => exact absurd divided (Text.splitOn_ne_nil '.' _)
        | cons part rest =>
            rw [divided] at decoded
            obtain ⟨first, others, -, -, absent⟩ := mapM_cons_eq_some decoded
            cases absent
    | cons first parts => exact ⟨first, parts, rfl, fun _ => mem_of_mapM decoded⟩

/-- Every key of a path is a proper one. -/
theorem key_of_parse? (read : parse? text = some path) {name : String}
    (member : .key name ∈ path.segments) :
    name ≠ "" ∧ '.' ∉ name.toList ∧ '[' ∉ name.toList ∧ ']' ∉ name.toList := by
  obtain ⟨first, parts, shape, origin⟩ := segments_of_parse? read
  rw [shape] at member
  obtain ⟨segments, inside, member⟩ := List.mem_flatten.1 member
  obtain ⟨part, divided, decoded⟩ := origin segments inside
  obtain ⟨selectors, rfl, some_key, unclosed, no_key⟩ := Segment.ofPart?_eq_some decoded
  rcases List.mem_cons.1 member with same | other
  · cases same
    obtain ⟨unopened, undivided⟩ := Segment.notMem_keyOf (Text.trim part)
    have no_dot : '.' ∉ Text.trim part := fun dot =>
      Text.not_mem_of_mem_splitOn divided (Text.mem_of_mem_trim dot)
    refine ⟨fun empty => some_key ?_, ?_, ?_, ?_⟩
    · exact String.ofList_eq_empty_iff.1 empty
    · rw [String.toList_ofList]; exact undivided no_dot
    · rw [String.toList_ofList]; exact unopened
    · rw [String.toList_ofList]; exact unclosed
  · exact absurd other (no_key name)

/-- A path is read back from its text. What is read begins with a key, and its keys have none of the
characters that divide a path. A text is refused exactly when it is blank or one of its parts is
faulty. -/
theorem parse?_exact :
    (∀ parts : List Part, parts ≠ [] →
      parse? (written parts) = some ⟨written parts, parts.flatMap Part.segments⟩) ∧
    (∀ text path, parse? text = some path →
      (∃ name rest, path.segments = .key name :: rest) ∧
        ∀ name, .key name ∈ path.segments →
          name ≠ "" ∧ '.' ∉ name.toList ∧ '[' ∉ name.toList ∧ ']' ∉ name.toList) ∧
    ∀ text, parse? text = none ↔
      Text.trim text.toList = [] ∨
        ∃ part ∈ (Text.trim text.toList).splitOn '.', Segment.Faulty (Text.trim part) := by
  refine ⟨fun parts => parse?_of_written,
    fun text path read => ⟨?_, fun name => key_of_parse? read⟩, fun text => parse?_eq_none_iff⟩
  obtain ⟨first, parts, shape, origin⟩ := segments_of_parse? read
  obtain ⟨part, -, decoded⟩ := origin first (List.mem_cons_self ..)
  obtain ⟨selectors, rfl, -⟩ := Segment.ofPart?_eq_some decoded
  exact ⟨_, selectors ++ parts.flatten, shape⟩

/-- A part with an opening bracket within a selector, and a selector that is a numeral. -/
def nestedPart : Part where
  key := "my items"
  selectors := [.element "a[b", .index 3]
  isKey := by decide +kernel
  areSelectors := by
    have isIdentifier : Segment.IsIdentifier "a[b" := by
      refine ⟨⟨by decide, ⟨?_, ?_⟩, by decide, by decide⟩, by decide, ?_⟩
      · intro character member
        cases member
        decide
      · intro character member
        cases member
        decide
      · intro mark member inner same
        simp only [List.mem_cons, List.not_mem_nil, or_false] at member
        rcases member with rfl | rfl <;> cases same
    intro selector member
    simp only [List.mem_cons, List.not_mem_nil, or_false] at member
    rcases member with rfl | rfl
    · exact isIdentifier
    · show 3 < Text.wordBound
      decide

/-- A part with a bracket in a selector is read back, a quoted selector leaves the keys as they are,
and a character behind a closing bracket is refused. -/
theorem parse?_exact_nested :
    [nestedPart] ≠ [] ∧
      parse? "my items[a[b][3]" =
        some ⟨"my items[a[b][3]", [.key "my items", .element "a[b", .index 3]⟩ ∧
      parse? " global.list[\"a b\"] " =
        some ⟨"global.list[\"a b\"]", [.key "global", .key "list", .element "a b"]⟩ ∧
      '[' ∉ "list".toList ∧ parse? "global.x[1]y" = none := by
  obtain ⟨reads, keys, refuses⟩ := parse?_exact
  have quoted : parse? " global.list[\"a b\"] " =
      some ⟨"global.list[\"a b\"]", [.key "global", .key "list", .element "a b"]⟩ := by
    decide +kernel
  refine ⟨List.cons_ne_nil _ _, reads [nestedPart] (List.cons_ne_nil _ _), quoted, ?_, ?_⟩
  · exact ((keys _ _ quoted).2 "list" (by decide)).2.2.1
  · refine (refuses "global.x[1]y").2 (.inr ⟨"x[1]y".toList, by decide +kernel, ?_⟩)
    exact .selector ["1".toList] ['y'] (by decide) (by decide +kernel) (.unopened [] (by decide))

end Path

end VisualNovel
