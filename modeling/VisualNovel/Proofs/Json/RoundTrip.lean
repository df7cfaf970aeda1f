import Mathlib.Data.List.Forall2
import VisualNovel.Proofs.Json.Numbers

/-!
# Reading documents back

The text of a document is read as the document, in the form that the text shows, when every number
is exact. Only what is nested too deeply is lost: the reader passes over it and has no value for it.
`read?_indented` says so for the text with one entry a line, and `read?_compact` for the one without
blanks.
-/

namespace VisualNovel.Json

mutual

/-- The document in the form that its text shows: a number that is not finite is written as an absent
value, and so is an unreadable piece. -/
def written : Json → Json
  | .null => .null
  | .bool value => .bool value
  | .integer value => .integer value
  | .real value => if value.isFinite then .real value else .null
  | .text value => .text value
  | .array items => .array (writtenItems items)
  | .object members => .object (writtenMembers members)
  | .unreadable => .null

/-- The items of a list in the form that their text shows. -/
def writtenItems : List Json → List Json
  | [] => []
  | item :: items => written item :: writtenItems items

/-- The members of an object in the form that their text shows. -/
def writtenMembers : List (String × Json) → List (String × Json)
  | [] => []
  | (name, value) :: members => (name, written value) :: writtenMembers members

end

mutual

/-- The document without what a reader inside `depth` arrays and objects has no value for. -/
def cut (depth : Nat) : Json → Json
  | .null => .null
  | .bool value => .bool value
  | .integer value => .integer value
  | .real value => .real value
  | .text value => .text value
  | .array items =>
    if depth < nestingLimit then .array (cutItems (depth + 1) items) else .unreadable
  | .object members =>
    if depth < nestingLimit then .object (cutMembers (depth + 1) members) else .unreadable
  | .unreadable => .unreadable

/-- The items of a list without what is nested too deeply. -/
def cutItems (depth : Nat) : List Json → List Json
  | [] => []
  | item :: items => cut depth item :: cutItems depth items

/-- The members of an object without what is nested too deeply. -/
def cutMembers (depth : Nat) : List (String × Json) → List (String × Json)
  | [] => []
  | (name, value) :: members => (name, cut depth value) :: cutMembers depth members

end

mutual

/-- Whether every number of the document is read as it was written. -/
def Exact : Json → Prop
  | .integer value => IsWord value
  | .real value => value.isFinite = true → ReadsBack value
  | .array items => ExactItems items
  | .object members => ExactMembers members
  | _ => True

/-- Whether every number of the items is read as it was written. -/
def ExactItems : List Json → Prop
  | [] => True
  | item :: items => Exact item ∧ ExactItems items

/-- Whether every number of the members is read as it was written. -/
def ExactMembers : List (String × Json) → Prop
  | [] => True
  | (_, value) :: members => Exact value ∧ ExactMembers members

end

/-! ## What a text spells -/

/-- Inside `depth` arrays and objects, the characters are read as the document, whatever follows that
is not part of a number. -/
def Spells (depth : Nat) (characters : List Char) (document : Json) : Prop :=
  ∀ fuel rest, characters.length ≤ fuel → Ends rest →
    readValue fuel depth (characters ++ rest) = some (document, rest)

variable {depth fuel : Nat} {characters rest : List Char} {document : Json}

theorem Spells.of_step {character : Char}
    (reads : ∀ fuel rest, characters.length ≤ fuel → Ends rest →
      readValue (fuel + 1) depth (character :: (characters ++ rest)) = some (document, rest)) :
    Spells depth (character :: characters) document := by
  intro fuel rest enough ends
  cases fuel with
  | zero => cases enough
  | succ fuel => exact reads fuel rest (Nat.le_of_succ_le_succ enough) ends

theorem readValue_blanks (fuel depth : Nat) {blanks : List Char}
    (blank : ∀ character ∈ blanks, isSpace character = true) (characters : List Char) :
    readValue fuel depth (blanks ++ characters) = readValue fuel depth characters := by
  cases fuel with
  | zero => rfl
  | succ fuel => simp only [readValue, skipSpace_append blank]

theorem spells_null : Spells depth "null".toList .null :=
  .of_step fun _ _ _ _ => rfl

theorem spells_bool (value : Bool) : Spells depth (compact (.bool value)).toList (.bool value) := by
  cases value with
  | true => exact .of_step fun _ _ _ _ => rfl
  | false => exact .of_step fun _ _ _ _ => rfl

theorem spells_text (value : String) : Spells depth (quoted value).toList (.text value) := by
  rw [toList_quoted]
  apply Spells.of_step
  intro fuel rest enough ends
  rw [List.append_assoc]
  simp only [readValue, skipSpace_cons (show isSpace '"' = false by decide), List.cons_append,
    List.nil_append, readQuoted_quoted]
  rfl

/-- What is made of the characters of numbers and read as a number spells the number. -/
theorem spells_number (numerals : ∀ character ∈ characters, IsNumeral character)
    (reads : ∀ rest, Ends rest → readNumber (characters ++ rest) = some (document, rest)) :
    Spells depth characters document := by
  cases characters with
  | nil => cases reads [] ends_nil
  | cons character characters =>
      apply Spells.of_step
      intro fuel rest enough ends
      rw [readValue_numeral fuel depth (numerals character (List.mem_cons_self ..))]
      exact reads rest ends

/-! ## Lists and objects -/

/-- No document begins with a bracket that closes. -/
theorem readValue_closing {next : List Char} (closing : skipSpace characters = ']' :: next) :
    readValue fuel depth characters = none := by
  cases fuel with
  | zero => rfl
  | succ fuel =>
      simp only [readValue, closing]
      rfl

theorem readItems_closing {next : List Char} (closing : skipSpace characters = ']' :: next) :
    readItems fuel depth characters = none := by
  cases fuel with
  | zero => rfl
  | succ fuel =>
      simp only [readItems, readValue_closing closing]
      rfl

theorem readMembers_closing {next : List Char} (closing : skipSpace characters = '}' :: next) :
    readMembers fuel depth characters = none := by
  cases fuel with
  | zero => rfl
  | succ fuel =>
      simp only [readMembers, closing]
      rfl

theorem ends_blanks {blanks : List Char} (blank : ∀ character ∈ blanks, isSpace character = true)
    (ends : Ends rest) : Ends (blanks ++ rest) := by
  cases blanks with
  | nil => exact ends
  | cons character blanks =>
      have space := blank character (List.mem_cons_self ..)
      simp only [isSpace, Bool.or_eq_true, decide_eq_true_eq] at space
      rcases space with ((rfl | rfl) | rfl) | rfl <;> exact ends_cons (by decide) (by decide)

theorem ends_comma (rest : List Char) : Ends (',' :: rest) :=
  ends_cons (by decide) (by decide)

section

variable {inner outer : List Char} {texts : List (List Char)}

/-- Texts behind commas and blanks are read as the items they spell. -/
theorem readItems_intercalate (blank : ∀ character ∈ inner, isSpace character = true)
    (blankEnd : ∀ character ∈ outer, isSpace character = true) {items : List Json}
    (spelled : List.Forall₂ (Spells depth) texts items) (some_item : texts ≠ [])
    (enough : (List.intercalate (',' :: inner) texts).length < fuel) (rest : List Char) :
    readItems fuel depth
      (inner ++ (List.intercalate (',' :: inner) texts ++ (outer ++ ']' :: rest))) =
        some (items, rest) := by
  induction spelled generalizing fuel with
  | nil => exact absurd rfl some_item
  | @cons text item texts items first others ih =>
      cases fuel with
      | zero => cases enough
      | succ fuel =>
          simp only [readItems, readValue_blanks fuel depth blank]
          cases others with
          | nil =>
              rw [List.intercalate_singleton] at enough ⊢
              have ends : Ends (outer ++ ']' :: rest) :=
                ends_blanks blankEnd (ends_cons (by decide) (by decide))
              rw [first fuel _ (Nat.le_of_lt_succ enough) ends]
              simp [skipSpace_append blankEnd, skipSpace_cons (show isSpace ']' = false by decide)]
          | @cons next nextItem later laterItems second others =>
              rw [List.intercalate_cons_cons] at enough ⊢
              simp only [List.length_append, List.length_cons] at enough
              simp only [List.append_assoc, List.cons_append]
              rw [first fuel _ (by omega) (ends_comma _)]
              simp only [Option.bind_eq_bind, Option.bind_some,
                skipSpace_cons (show isSpace ',' = false by decide)]
              rw [ih (List.cons_ne_nil _ _) (by omega)]
              rfl

/-- The characters are a name, a colon, perhaps blanks, and what spells the value. -/
def SpellsMember (depth : Nat) (characters : List Char) (member : String × Json) : Prop :=
  ∃ blanks text, (∀ character ∈ blanks, isSpace character = true) ∧
    characters = (quoted member.1).toList ++ ':' :: (blanks ++ text) ∧ Spells depth text member.2

theorem SpellsMember.parts {member : String × Json} (spells : SpellsMember depth characters member)
    (enough : characters.length ≤ fuel) (ends : Ends rest) :
    ∃ afterColon, characters ++ rest =
        '"' :: (member.1.toList.flatMap escaped ++ '"' :: ':' :: afterColon) ∧
      readValue fuel depth afterColon = some (member.2, rest) := by
  obtain ⟨blanks, text, blank, rfl, value⟩ := spells
  simp only [toList_quoted, List.length_append, List.length_cons] at enough
  refine ⟨blanks ++ (text ++ rest), by simp [toList_quoted], ?_⟩
  exact (readValue_blanks fuel depth blank (text ++ rest)).trans (value fuel rest (by omega) ends)

/-- A member that is spelled out is read, and those behind a comma. -/
theorem SpellsMember.followed {member : String × Json}
    (spells : SpellsMember depth characters member) (enough : characters.length ≤ fuel)
    (ends : Ends rest) {next : List Char} (comma : skipSpace rest = ',' :: next) :
    readMembers (fuel + 1) depth (characters ++ rest) =
      (readMembers fuel depth next).map fun read => (read.1.map (member :: ·), read.2) := by
  obtain ⟨afterColon, shape, value⟩ := spells.parts enough ends
  simp only [shape, readMembers, skipSpace_cons (show isSpace '"' = false by decide),
    readQuoted_quoted, Option.bind_eq_bind, Option.bind_some,
    skipSpace_cons (show isSpace ':' = false by decide), value, comma]
  cases readMembers fuel depth next <;> rfl

/-- A member that is spelled out is read as the last one in front of a closing brace. -/
theorem SpellsMember.last {member : String × Json} (spells : SpellsMember depth characters member)
    (enough : characters.length ≤ fuel) (ends : Ends rest) {next : List Char}
    (brace : skipSpace rest = '}' :: next) :
    readMembers (fuel + 1) depth (characters ++ rest) = some (some [member], next) := by
  obtain ⟨afterColon, shape, value⟩ := spells.parts enough ends
  simp only [shape, readMembers, skipSpace_cons (show isSpace '"' = false by decide),
    readQuoted_quoted, Option.bind_eq_bind, Option.bind_some,
    skipSpace_cons (show isSpace ':' = false by decide), value, brace]
  rfl

/-- Texts behind commas and blanks are read as the members they spell. -/
theorem readMembers_intercalate (blank : ∀ character ∈ inner, isSpace character = true)
    (blankEnd : ∀ character ∈ outer, isSpace character = true) {members : List (String × Json)}
    (spelled : List.Forall₂ (SpellsMember depth) texts members) (some_member : texts ≠ [])
    (enough : (List.intercalate (',' :: inner) texts).length < fuel) (rest : List Char) :
    readMembers fuel depth
      (inner ++ (List.intercalate (',' :: inner) texts ++ (outer ++ '}' :: rest))) =
        some (some members, rest) := by
  have readMembers_blanks : ∀ fuel characters,
      readMembers fuel depth (inner ++ characters) = readMembers fuel depth characters := by
    intro fuel characters
    cases fuel with
    | zero => rfl
    | succ fuel => simp only [readMembers, skipSpace_append blank]
  induction spelled generalizing fuel with
  | nil => exact absurd rfl some_member
  | @cons text member texts members first others ih =>
      cases fuel with
      | zero => cases enough
      | succ fuel =>
          rw [readMembers_blanks]
          cases others with
          | nil =>
              rw [List.intercalate_singleton] at enough ⊢
              have ends : Ends (outer ++ '}' :: rest) :=
                ends_blanks blankEnd (ends_cons (by decide) (by decide))
              have brace : skipSpace (outer ++ '}' :: rest) = '}' :: rest :=
                (skipSpace_append blankEnd _).trans (skipSpace_cons (by decide) rest)
              exact first.last (Nat.le_of_lt_succ enough) ends brace
          | @cons next nextMember later laterMembers second others =>
              rw [List.intercalate_cons_cons] at enough ⊢
              simp only [List.length_append, List.length_cons] at enough
              simp only [List.append_assoc, List.cons_append]
              rw [first.followed (by omega) (ends_comma _) (skipSpace_cons (by decide) _),
                ih (List.cons_ne_nil _ _) (by omega)]
              rfl

/-! ## Entries between brackets -/

/-- What spells items, behind commas and blanks and between brackets, spells their list. -/
theorem spells_items (blank : ∀ character ∈ inner, isSpace character = true)
    (blankEnd : ∀ character ∈ outer, isSpace character = true) {items : List Json}
    (spelled : List.Forall₂ (Spells (depth + 1)) texts items) (some_item : texts ≠ []) :
    Spells depth ('[' :: (inner ++ (List.intercalate (',' :: inner) texts ++ (outer ++ [']']))))
      (if depth < nestingLimit then .array items else .unreadable) := by
  apply Spells.of_step
  intro fuel rest enough ends
  simp only [List.length_append, List.length_cons] at enough
  have read := readItems_intercalate blank blankEnd spelled some_item
    (show _ < fuel by omega) rest
  simp only [readValue, skipSpace_cons (show isSpace '[' = false by decide), List.append_assoc,
    List.cons_append, List.nil_append]
  split
  · rename_i closing
    rw [readItems_closing closing] at read
    cases read
  · rw [read]
    rfl

/-- What spells members, behind commas and blanks and between braces, spells their object. -/
theorem spells_members (blank : ∀ character ∈ inner, isSpace character = true)
    (blankEnd : ∀ character ∈ outer, isSpace character = true) {members : List (String × Json)}
    (spelled : List.Forall₂ (SpellsMember (depth + 1)) texts members) (some_member : texts ≠ []) :
    Spells depth ('{' :: (inner ++ (List.intercalate (',' :: inner) texts ++ (outer ++ ['}']))))
      (if depth < nestingLimit then .object members else .unreadable) := by
  apply Spells.of_step
  intro fuel rest enough ends
  simp only [List.length_append, List.length_cons] at enough
  have read := readMembers_intercalate blank blankEnd spelled some_member
    (show _ < fuel by omega) rest
  simp only [readValue, skipSpace_cons (show isSpace '{' = false by decide), List.append_assoc,
    List.cons_append, List.nil_append]
  split
  · rename_i closing
    rw [readMembers_closing closing] at read
    cases read
  · rw [read]
    rfl

/-- The line break and the indentation of a level. -/
def lineBreak (level : Nat) : List Char :=
  '\n' :: List.replicate (2 * level) ' '

theorem isSpace_lineBreak (level : Nat) :
    ∀ character ∈ lineBreak level, isSpace character = true := by
  intro character member
  rcases List.mem_cons.1 member with rfl | member
  · rfl
  · cases List.eq_of_mem_replicate member
    rfl

theorem toList_block {opening closing : String} {first last : Char} {entries : List String}
    (opens : opening.toList = [first]) (closes : closing.toList = [last])
    (some_entry : entries ≠ []) (level : Nat) :
    (block opening closing level entries).toList =
      first :: (lineBreak (level + 1) ++
        (List.intercalate (',' :: lineBreak (level + 1)) (entries.map String.toList) ++
          (lineBreak level ++ [last]))) := by
  have some_text : entries.isEmpty = false := by
    cases entries with
    | nil => exact absurd rfl some_entry
    | cons => rfl
  simp [block, some_text, opens, closes, lineBreak, String.toList_intercalate]

theorem toList_block_nil {opening closing : String} {first last : Char}
    (opens : opening.toList = [first]) (closes : closing.toList = [last]) (level : Nat) :
    (block opening closing level []).toList = [first, last] := by
  simp [block, opens, closes]

/-- The items of a list, spelled out one a line, spell the list. -/
theorem spells_array {level : Nat} {texts : List String} {items : List Json}
    (spelled : List.Forall₂ (Spells (depth + 1)) (texts.map String.toList) items) :
    Spells depth (block "[" "]" level texts).toList
      (if depth < nestingLimit then .array items else .unreadable) := by
  have opens : "[".toList = ['['] := rfl
  have closes : "]".toList = [']'] := rfl
  cases texts with
  | nil =>
      cases spelled
      rw [toList_block_nil opens closes]
      exact .of_step fun _ _ _ _ => rfl
  | cons text texts =>
      rw [toList_block opens closes (List.cons_ne_nil text texts)]
      exact spells_items (isSpace_lineBreak (level + 1)) (isSpace_lineBreak level) spelled
        (List.cons_ne_nil _ _)

/-- The members of an object, spelled out one a line, spell the object. -/
theorem spells_object {level : Nat} {texts : List String} {members : List (String × Json)}
    (spelled : List.Forall₂ (SpellsMember (depth + 1)) (texts.map String.toList) members) :
    Spells depth (block "\x7b" "\x7d" level texts).toList
      (if depth < nestingLimit then .object members else .unreadable) := by
  have opens : "\x7b".toList = ['{'] := rfl
  have closes : "\x7d".toList = ['}'] := rfl
  cases texts with
  | nil =>
      cases spelled
      rw [toList_block_nil opens closes]
      exact .of_step fun _ _ _ _ => rfl
  | cons text texts =>
      rw [toList_block opens closes (List.cons_ne_nil text texts)]
      exact spells_members (isSpace_lineBreak (level + 1)) (isSpace_lineBreak level) spelled
        (List.cons_ne_nil _ _)

end

/-! ## Documents -/

mutual

/-- An exact document is spelled by its text, at every indentation. -/
theorem spells_indentedAt : (document : Json) → document.Exact → (level depth : Nat) →
    Spells depth (indentedAt level document).toList (cut depth document.written)
  | .null, _, _, _ => spells_null
  | .bool true, _, _, _ => spells_bool true
  | .bool false, _, _, _ => spells_bool false
  | .integer value, exact, _, _ =>
      spells_number (isNumeral_integer value) fun _ ends => readNumber_integer exact ends
  | .real value, exact, _, depth => by
      cases finite : value.isFinite with
      | true =>
          simp only [written, finite, if_true, cut]
          exact spells_number (isNumeral_realText finite) fun _ ends =>
            readNumber_real finite (exact finite) ends
      | false =>
          simp only [written, indentedAt, realText, finite, Bool.false_eq_true, if_false, cut]
          exact spells_null
  | .text value, _, _, _ => spells_text value
  | .array items, exact, level, depth =>
      spells_array (spells_indentedItems items exact (level + 1) (depth + 1))
  | .object members, exact, level, depth =>
      spells_object (spells_indentedMembers members exact (level + 1) (depth + 1))
  | .unreadable, _, _, _ => spells_null

theorem spells_indentedItems : (items : List Json) → ExactItems items → (level depth : Nat) →
    List.Forall₂ (Spells depth) ((indentedItems level items).map String.toList)
      (cutItems depth (writtenItems items))
  | [], _, _, _ => .nil
  | item :: items, exact, level, depth =>
      .cons (spells_indentedAt item exact.1 level depth)
        (spells_indentedItems items exact.2 level depth)

theorem spells_indentedMembers : (members : List (String × Json)) → ExactMembers members →
    (level depth : Nat) →
    List.Forall₂ (SpellsMember depth) ((indentedMembers level members).map String.toList)
      (cutMembers depth (writtenMembers members))
  | [], _, _, _ => .nil
  | (name, value) :: members, exact, level, depth =>
      .cons ⟨[' '], (indentedAt level value).toList, List.forall_mem_singleton.2 rfl, by simp,
          spells_indentedAt value exact.1 level depth⟩
        (spells_indentedMembers members exact.2 level depth)

end

/-- The items of a list, spelled out without blanks, spell the list. -/
theorem spells_compactArray {texts : List String} {items : List Json}
    (spelled : List.Forall₂ (Spells (depth + 1)) (texts.map String.toList) items) :
    Spells depth ("[" ++ String.intercalate "," texts ++ "]").toList
      (if depth < nestingLimit then .array items else .unreadable) := by
  have shape : ("[" ++ String.intercalate "," texts ++ "]").toList =
      '[' :: (List.intercalate [','] (texts.map String.toList) ++ [']']) := by
    simp [String.toList_intercalate]
  rw [shape]
  cases texts with
  | nil =>
      cases spelled
      exact .of_step fun _ _ _ _ => rfl
  | cons text texts =>
      have blank : ∀ character ∈ ([] : List Char), isSpace character = true :=
        List.forall_mem_nil _
      exact spells_items blank blank spelled (List.cons_ne_nil _ _)

/-- The members of an object, spelled out without blanks, spell the object. -/
theorem spells_compactObject {texts : List String} {members : List (String × Json)}
    (spelled : List.Forall₂ (SpellsMember (depth + 1)) (texts.map String.toList) members) :
    Spells depth ("\x7b" ++ String.intercalate "," texts ++ "\x7d").toList
      (if depth < nestingLimit then .object members else .unreadable) := by
  have shape : ("\x7b" ++ String.intercalate "," texts ++ "\x7d").toList =
      '{' :: (List.intercalate [','] (texts.map String.toList) ++ ['}']) := by
    simp [String.toList_intercalate]
  rw [shape]
  cases texts with
  | nil =>
      cases spelled
      exact .of_step fun _ _ _ _ => rfl
  | cons text texts =>
      have blank : ∀ character ∈ ([] : List Char), isSpace character = true :=
        List.forall_mem_nil _
      exact spells_members blank blank spelled (List.cons_ne_nil _ _)

mutual

/-- An exact document is spelled by its text without blanks. -/
theorem spells_compact : (document : Json) → document.Exact → (depth : Nat) →
    Spells depth (compact document).toList (cut depth document.written)
  | .null, _, _ => spells_null
  | .bool true, _, _ => spells_bool true
  | .bool false, _, _ => spells_bool false
  | .integer value, exact, _ =>
      spells_number (isNumeral_integer value) fun _ ends => readNumber_integer exact ends
  | .real value, exact, depth => spells_indentedAt (.real value) exact 0 depth
  | .text value, _, _ => spells_text value
  | .array items, exact, depth => spells_compactArray (spells_compactItems items exact (depth + 1))
  | .object members, exact, depth =>
      spells_compactObject (spells_compactMembers members exact (depth + 1))
  | .unreadable, _, _ => spells_null

theorem spells_compactItems : (items : List Json) → ExactItems items → (depth : Nat) →
    List.Forall₂ (Spells depth) ((compactItems items).map String.toList)
      (cutItems depth (writtenItems items))
  | [], _, _ => .nil
  | item :: items, exact, depth =>
      .cons (spells_compact item exact.1 depth) (spells_compactItems items exact.2 depth)

theorem spells_compactMembers : (members : List (String × Json)) → ExactMembers members →
    (depth : Nat) →
    List.Forall₂ (SpellsMember depth) ((compactMembers members).map String.toList)
      (cutMembers depth (writtenMembers members))
  | [], _, _ => .nil
  | (name, value) :: members, exact, depth =>
      .cons ⟨[], (compact value).toList, by simp, by simp, spells_compact value exact.1 depth⟩
        (spells_compactMembers members exact.2 depth)

end

/-- What a text spells is read from it. -/
theorem read?_of_spells {text : String} (spelled : Spells 0 text.toList document) :
    read? text = some document := by
  have read := spelled (2 * text.toList.length + 2) [] (by omega) ends_nil
  rw [List.append_nil] at read
  simp only [read?]
  rw [read]
  rfl

/-- The text of an exact document is read as what the text shows of it, without what is nested too
deeply. -/
theorem read?_indented (exact : document.Exact) :
    read? document.indented = some (cut 0 document.written) :=
  read?_of_spells (spells_indentedAt document exact 0 0)

/-- So is the text without blanks. -/
theorem read?_compact (exact : document.Exact) :
    read? document.compact = some (cut 0 document.written) :=
  read?_of_spells (spells_compact document exact 0)

end VisualNovel.Json
