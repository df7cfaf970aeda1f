import Mathlib.Logic.Function.Iterate
import VisualNovel.Proofs.History
import VisualNovel.Proofs.Saves.Documents

/-!
# Stripping texts again

Stripping takes the attributes of renderers out of a text. A text is left as it is exactly when it
holds the name of no attribute. Behind an attribute that ends by itself comes a blank or the end of a
tag, and no name goes on with these. But behind a value in quotation marks any character may follow,
and so what stood in front of the attribute and what stood behind it may join to a new name. Then the
next save strips the text once more.
-/

namespace VisualNovel

namespace Text

variable {lead characters rest : List Char}

theorem afterPrefix_eq_some :
    afterPrefix lead characters = some rest ↔ characters = lead ++ rest := by
  induction lead generalizing characters with
  | nil => simp [afterPrefix]
  | cons expected lead ih =>
      cases characters with
      | nil => simp [afterPrefix]
      | cons character characters =>
          simp only [afterPrefix]
          split
          · rename_i same
            simp [ih, same]
          · rename_i different
            simp [Ne.symm different]

theorem afterPrefix_eq_none : afterPrefix lead characters = none ↔ ¬lead <+: characters := by
  constructor
  · rintro absent ⟨rest, shape⟩
    rw [afterPrefix_eq_some.2 shape.symm] at absent
    cases absent
  · intro other
    cases found : afterPrefix lead characters with
    | none => rfl
    | some rest => exact absurd ⟨rest, (afterPrefix_eq_some.1 found).symm⟩ other

end Text

namespace History

/-- The log with every line changed. -/
def mapLines (change : HistoryEntry → HistoryEntry) (history : History) : History :=
  { history with entries := history.entries.map change }

variable (change : HistoryEntry → HistoryEntry)

theorem push_mapLines (history : History) (line : HistoryEntry) :
    (history.push line).mapLines change = (history.mapLines change).push (change line) := by
  simp only [push, mapLines, List.length_map, List.map_append, List.map_cons, List.map_nil]
  split
  · rw [List.map_drop]
  · rfl

/-- A log that takes in changed lines holds what it would have held, changed. -/
theorem replace_map (history : History) (lines : List HistoryEntry) :
    history.replace (lines.map change) = (history.replace lines).mapLines change := by
  have pushes : ∀ log : History, (lines.map change).foldl push (log.mapLines change) =
      (lines.foldl push log).mapLines change := by
    induction lines with
    | nil => exact fun _ => rfl
    | cons line lines ih =>
        intro log
        rw [List.map_cons, List.foldl_cons, List.foldl_cons, ← push_mapLines, ih]
  exact pushes history.clear

end History

namespace Markup

variable {text before after taken rest : List Char} {character : Char} {length : Nat}

/-! ## Names of attributes -/

/-- The names that attributes begin with. -/
def names : List (List Char) := ["data-v-".toList, "__v".toList]

/-- The characters begin with the name of an attribute. -/
def Begins (characters : List Char) : Prop :=
  ∃ name ∈ names, name <+: characters

/-- The name of an attribute stands in the characters. -/
def Holds (characters : List Char) : Prop :=
  ∃ name ∈ names, name <:+: characters

/-- No attribute without quotation marks goes on with the characters. -/
def Ended (characters : List Char) : Prop :=
  ∀ character ∈ characters.head?, endsAttribute character = true

theorem names_proper : ∀ name ∈ names, name ≠ [] := by
  decide

theorem names_unended : ∀ name ∈ names, ∀ character ∈ name, endsAttribute character = false := by
  have every : (names.flatten.any endsAttribute) = false := by decide
  simpa using every

theorem attributeLength?_eq_none : attributeLength? text = none ↔ ¬Begins text := by
  have begins : Begins text ↔ "data-v-".toList <+: text ∨ "__v".toList <+: text := by
    simp [Begins, names]
  rw [begins, not_or, ← Text.afterPrefix_eq_none, ← Text.afterPrefix_eq_none, attributeLength?]
  cases Text.afterPrefix "data-v-".toList text with
  | none => simp
  | some rest => simp

theorem matchLength?_eq_none :
    matchLength? text = none ↔ ¬Begins (text.dropWhile isBlank) := by
  simp [matchLength?, attributeLength?_eq_none]

/-- No name begins at a character that is kept. -/
theorem not_begins (kept : matchLength? (character :: rest) = none) :
    ¬Begins (character :: rest) := by
  rintro ⟨name, known, leads⟩
  apply matchLength?_eq_none.1 kept
  have visible : isBlank character = false := by
    cases name with
    | nil => exact absurd rfl (names_proper _ known)
    | cons first name =>
        have unended := names_unended _ known first (List.mem_cons_self ..)
        rw [(List.cons_prefix_cons.1 leads).1] at unended
        exact (Bool.or_eq_false_iff.1 unended).1
  rw [List.dropWhile_cons_of_neg (by simp [visible])]
  exact ⟨name, known, leads⟩

/-! ## The end of an attribute -/

/-- Blanks and an attribute with a value in quotation marks. -/
inductive Quoted : List Char → Prop where
  | intro (blanks mark value : List Char) :
      (∀ character ∈ blanks, isBlank character = true) →
      (∀ character ∈ mark, isMarkCharacter character = true) → mark.length ≤ 8 → '"' ∉ value →
      Quoted (blanks ++ "data-v-".toList ++ mark ++ '=' :: '"' :: value ++ ['"'])

theorem drop_length_takeWhile (accept : Char → Bool) (characters : List Char) :
    characters.drop (characters.takeWhile accept).length = characters.dropWhile accept := by
  have whole : characters.takeWhile accept ++ characters.dropWhile accept = characters :=
    List.takeWhile_append_dropWhile
  calc
    characters.drop (characters.takeWhile accept).length
      = (characters.takeWhile accept ++ characters.dropWhile accept).drop
          (characters.takeWhile accept).length := by rw [whole]
    _ = characters.dropWhile accept := List.drop_left

/-- An attribute without quotation marks reaches to a character that ends it. -/
theorem ended_openLength (lead characters : List Char) :
    Ended ((lead ++ characters).drop (lead.length + openLength characters)) := by
  intro character first
  rw [← List.drop_drop, List.drop_left, openLength, drop_length_takeWhile] at first
  have stopped := List.head?_dropWhile_not (fun character => !endsAttribute character) characters
  rw [Option.mem_def.1 first] at stopped
  simpa using stopped

theorem quotedLength?_eq_some {characters : List Char}
    (found : quotedLength? characters = some length) :
    ∃ value rest, '"' ∉ value ∧ characters = '=' :: '"' :: value ++ '"' :: rest ∧
      length = value.length + 3 := by
  simp only [quotedLength?] at found
  split at found
  · rename_i content
    split at found
    · rename_i closed
      have whole : content.takeWhile (fun character => character ≠ '"') ++
          content.dropWhile (fun character => character ≠ '"') = content :=
        List.takeWhile_append_dropWhile
      cases behind : content.dropWhile (fun character => character ≠ '"') with
      | nil =>
          rw [behind, List.append_nil] at whole
          rw [whole] at closed
          exact absurd closed (Nat.lt_irrefl _)
      | cons mark rest =>
          have stopped :=
            List.head?_dropWhile_not (fun character : Char => character ≠ '"') content
          rw [behind] at stopped
          have same : mark = '"' := by simpa using stopped
          subst same
          refine ⟨_, rest, ?_, ?_, (Option.some.inj found).symm⟩
          · intro member
            simpa using List.mem_takeWhile_imp member
          · rw [behind] at whole
            rw [List.cons_append, List.cons_append, whole]
    · cases found
  · cases found

/-- What follows `data-v-` begins with a mark. -/
theorem markLength_of_mark (characters : List Char) :
    ∃ mark rest, characters = mark ++ rest ∧ mark.length ≤ 8 ∧
      (∀ character ∈ mark, isMarkCharacter character = true) ∧
      markLength characters = mark.length + (quotedLength? rest).getD (openLength rest) := by
  have leads : (characters.take 8).takeWhile isMarkCharacter <+: characters :=
    (List.takeWhile_prefix _).trans (List.take_prefix 8 characters)
  have few : ((characters.take 8).takeWhile isMarkCharacter).length ≤ 8 :=
    (List.takeWhile_prefix _).length_le.trans (List.length_take_le 8 characters)
  exact ⟨_, _, (List.prefix_iff_eq_append.1 leads).symm, few,
    fun _ member => List.mem_takeWhile_imp member, rfl⟩

/-- An attribute that is found is quoted, or it reaches to a character that ends it. -/
theorem matchLength?_eq_some (found : matchLength? text = some length) :
    0 < length ∧
      ((∃ taken rest, Quoted taken ∧ text = taken ++ rest ∧ taken.length = length) ∨
        Ended (text.drop length)) := by
  simp only [matchLength?, Option.map_eq_some_iff] at found
  obtain ⟨size, found, rfl⟩ := found
  have whole : text.takeWhile isBlank ++ text.dropWhile isBlank = text :=
    List.takeWhile_append_dropWhile
  have blank : ∀ character ∈ text.takeWhile isBlank, isBlank character = true :=
    fun _ member => List.mem_takeWhile_imp member
  have behind : text.drop ((text.takeWhile isBlank).length + size) =
      (text.dropWhile isBlank).drop size := by
    rw [← List.drop_drop, drop_length_takeWhile]
  rw [behind]
  simp only [attributeLength?] at found
  split at found
  · rename_i rest leads
    rw [Text.afterPrefix_eq_some] at leads
    obtain ⟨mark, tail, parts, few, marks, size⟩ := markLength_of_mark rest
    cases found
    rw [size]
    refine ⟨by omega, ?_⟩
    cases quoted : quotedLength? tail with
    | some length =>
        obtain ⟨value, rest, unquoted, shape, rfl⟩ := quotedLength?_eq_some quoted
        refine .inl ⟨_, rest, .intro _ mark value blank marks few unquoted, ?_, ?_⟩
        · calc
            text = text.takeWhile isBlank ++ text.dropWhile isBlank := whole.symm
            _ = _ := by
              rw [leads, parts, shape]
              simp only [List.append_assoc, List.cons_append, List.nil_append]
        · simp
          omega
    | none =>
        have front : 7 + mark.length = ("data-v-".toList ++ mark).length := by
          simp
          omega
        right
        rw [leads, parts, ← List.append_assoc, Option.getD_none, ← Nat.add_assoc, front]
        exact ended_openLength _ tail
  · obtain ⟨rest, leads, rfl⟩ := Option.map_eq_some_iff.1 found
    rw [Text.afterPrefix_eq_some] at leads
    rw [leads]
    exact ⟨by omega, .inr (ended_openLength "__v".toList rest)⟩

theorem markLength_quoted {mark value : List Char}
    (marks : ∀ character ∈ mark, isMarkCharacter character = true) (few : mark.length ≤ 8)
    (unquoted : '"' ∉ value) :
    markLength (mark ++ '=' :: '"' :: (value ++ '"' :: rest)) =
      mark.length + (value.length + 3) := by
  have front : ((mark ++ '=' :: '"' :: (value ++ '"' :: rest)).take 8).takeWhile
      isMarkCharacter = mark := by
    rw [List.take_append, List.take_of_length_le few, List.takeWhile_append_of_pos marks]
    cases 8 - mark.length with
    | zero => simp
    | succ count => simp [isMarkCharacter]
  have content : (value ++ '"' :: rest).takeWhile (fun character => character ≠ '"') = value := by
    rw [List.takeWhile_append_of_pos]
    · simp
    · intro character member
      have other : character ≠ '"' := by
        rintro rfl
        exact unquoted member
      simpa using other
  simp only [markLength, front, List.drop_left, quotedLength?, content]
  simp

/-- A quoted attribute is found. -/
theorem Quoted.matchLength? (quoted : Quoted taken) (rest : List Char) :
    Markup.matchLength? (taken ++ rest) = some taken.length := by
  obtain ⟨blanks, mark, value, blank, marks, few, unquoted⟩ := quoted
  have parts : ∀ tail, (blanks ++ ("data-v-".toList ++ tail)).takeWhile isBlank = blanks ∧
      (blanks ++ ("data-v-".toList ++ tail)).dropWhile isBlank = "data-v-".toList ++ tail := by
    intro tail
    rw [List.takeWhile_append_of_pos blank, List.dropWhile_append_of_pos blank]
    exact ⟨List.append_nil _, rfl⟩
  simp only [List.append_assoc, List.cons_append, List.nil_append, Markup.matchLength?, parts]
  rw [attributeLength?, Text.afterPrefix_eq_some.2 rfl]
  simp [markLength_quoted marks few unquoted]
  omega

/-! ## The scan -/

theorem stripFrom_drop (skipped : Nat) (characters : List Char) :
    stripFrom skipped characters = stripFrom 0 (characters.drop skipped) := by
  induction characters generalizing skipped with
  | nil => simp [stripFrom]
  | cons character characters ih =>
      cases skipped with
      | zero => rfl
      | succ skipped => exact ih skipped

/-- A character is kept when no attribute begins there. -/
theorem stripFrom_kept (kept : matchLength? (character :: rest) = none) :
    stripFrom 0 (character :: rest) = character :: stripFrom 0 rest := by
  rw [stripFrom, kept]

/-- The scan goes on behind an attribute. -/
theorem stripFrom_removed (found : matchLength? text = some length) :
    stripFrom 0 text = stripFrom 0 (text.drop length) := by
  cases text with
  | nil => simp
  | cons character rest =>
      obtain ⟨size, rfl⟩ := Nat.exists_eq_succ_of_ne_zero (matchLength?_eq_some found).1.ne'
      rw [stripFrom, found]
      exact stripFrom_drop size rest

theorem length_drop_lt (found : matchLength? text = some length) :
    (text.drop length).length < text.length := by
  have positive := (matchLength?_eq_some found).1
  cases text with
  | nil => cases found
  | cons character rest =>
      simp only [List.length_drop, List.length_cons]
      omega

/-- What holds of a text behind a kept character and behind an attribute holds of every text. -/
theorem scan_induction {motive : List Char → Prop} (nil : motive [])
    (kept : ∀ character rest, matchLength? (character :: rest) = none → motive rest →
      motive (character :: rest))
    (removed : ∀ text length, matchLength? text = some length → motive (text.drop length) →
      motive text) (text : List Char) : motive text := by
  induction size : text.length using Nat.strongRecOn generalizing text with
  | ind size ih =>
      cases found : matchLength? text with
      | some length =>
          exact removed text length found (ih _ (size ▸ length_drop_lt found) _ rfl)
      | none =>
          cases text with
          | nil => exact nil
          | cons character rest =>
              exact kept character rest found (ih _ (by simp [← size]) rest rfl)

/-- A text without names is left as it is. -/
theorem stripFrom_eq_self (text : List Char) : ¬Holds text → stripFrom 0 text = text := by
  induction text using scan_induction with
  | nil => exact fun _ => rfl
  | kept character rest kept ih =>
      intro clean
      rw [stripFrom_kept kept, ih]
      rintro ⟨name, known, inside⟩
      exact clean ⟨name, known, inside.trans (List.suffix_cons ..).isInfix⟩
  | removed text length found ih =>
      intro clean
      exfalso
      have begins : Begins (text.dropWhile isBlank) := by
        by_contra other
        rw [matchLength?_eq_none.2 other] at found
        cases found
      obtain ⟨name, known, leads⟩ := begins
      exact clean ⟨name, known, leads.isInfix.trans (List.dropWhile_suffix _).isInfix⟩

theorem length_stripFrom_le (text : List Char) : (stripFrom 0 text).length ≤ text.length := by
  induction text using scan_induction with
  | nil => exact Nat.le_refl 0
  | kept character rest kept ih =>
      rw [stripFrom_kept kept]
      exact Nat.succ_le_succ ih
  | removed text length found ih =>
      rw [stripFrom_removed found]
      exact ih.trans (Nat.le_of_lt (length_drop_lt found))

/-- A text with a name loses characters. -/
theorem length_stripFrom_lt (text : List Char) :
    Holds text → (stripFrom 0 text).length < text.length := by
  induction text using scan_induction with
  | nil =>
      rintro ⟨name, known, inside⟩
      exact absurd (List.infix_nil.1 inside) (names_proper name known)
  | kept character rest kept ih =>
      rintro ⟨name, known, inside⟩
      rw [stripFrom_kept kept]
      rcases List.infix_cons_iff.1 inside with leads | inside
      · exact absurd ⟨name, known, leads⟩ (not_begins kept)
      · exact Nat.succ_lt_succ (ih ⟨name, known, inside⟩)
  | removed text length found ih =>
      intro held
      rw [stripFrom_removed found]
      exact (length_stripFrom_le _).trans_lt (length_drop_lt found)

/-- A text is left as it is exactly when no name stands in it. -/
theorem stripFrom_eq_self_iff : stripFrom 0 text = text ↔ ¬Holds text := by
  constructor
  · intro same held
    exact absurd (congrArg List.length same) (length_stripFrom_lt text held).ne
  · exact stripFrom_eq_self text

/-! ## Where a text joins -/

/-- Stripping the text takes a quoted attribute out between what it leaves before and after. -/
inductive Joins : List Char → List Char → List Char → Prop where
  | here {taken rest : List Char} : Quoted taken → Joins (taken ++ rest) [] (stripFrom 0 rest)
  | kept {character : Char} {rest before after : List Char} :
      matchLength? (character :: rest) = none → Joins rest before after →
      Joins (character :: rest) (character :: before) after
  | passed {text before after : List Char} {length : Nat} :
      matchLength? text = some length → Joins (text.drop length) before after →
      Joins text before after

/-- A name begins at the end of the one part and ends at the start of the other. -/
def Straddles (before after : List Char) : Prop :=
  ∃ front back, front ++ back ∈ names ∧ front ≠ [] ∧ back ≠ [] ∧ front <:+ before ∧ back <+: after

theorem Joins.stripFrom_eq (joins : Joins text before after) :
    stripFrom 0 text = before ++ after := by
  induction joins with
  | @here taken rest quoted =>
      rw [stripFrom_removed (quoted.matchLength? rest), List.drop_left, List.nil_append]
  | kept kept joins ih => rw [stripFrom_kept kept, ih, List.cons_append]
  | passed found joins ih => rw [stripFrom_removed found, ih]

/-- Only a quoted attribute brings a character that goes on with an attribute to the front. -/
theorem Ended.joins (text : List Char) (ended : Ended text)
    (shape : stripFrom 0 text = character :: rest) (unended : endsAttribute character = false) :
    ∃ after, Joins text [] after := by
  induction text using scan_induction with
  | nil => cases shape
  | kept first behind kept ih =>
      rw [stripFrom_kept kept] at shape
      cases shape
      rw [ended character rfl] at unended
      cases unended
  | removed text length found ih =>
      rcases (matchLength?_eq_some found).2 with ⟨taken, behind, quoted, rfl, -⟩ | ended
      · exact ⟨_, .here quoted⟩
      · rw [stripFrom_removed found] at shape
        obtain ⟨after, joins⟩ := ih ended shape
        exact ⟨after, .passed found joins⟩

/-- What leads a stripped text leads the text, unless a quoted attribute was taken out of it. -/
theorem leads_stripFrom (text : List Char) {lead : List Char}
    (unended : ∀ character ∈ lead, endsAttribute character = false)
    (leads : lead <+: stripFrom 0 text) :
    lead <+: text ∨ ∃ before after, Joins text before after ∧ before.length < lead.length := by
  induction text using scan_induction generalizing lead with
  | nil => exact .inl leads
  | kept character rest kept ih =>
      cases lead with
      | nil => exact .inl List.nil_prefix
      | cons first lead =>
          rw [stripFrom_kept kept] at leads
          obtain ⟨rfl, behind⟩ := List.cons_prefix_cons.1 leads
          obtain whole | ⟨before, after, joins, few⟩ :=
            ih (fun _ member => unended _ (List.mem_cons_of_mem _ member)) behind
          · exact .inl (List.cons_prefix_cons.2 ⟨rfl, whole⟩)
          · exact .inr ⟨_, after, .kept kept joins, Nat.succ_lt_succ few⟩
  | removed text length found ih =>
      cases lead with
      | nil => exact .inl List.nil_prefix
      | cons first lead =>
          right
          obtain ⟨taken, rest, quoted, rfl, -⟩ | ended := (matchLength?_eq_some found).2
          · exact ⟨[], _, .here quoted, Nat.succ_pos _⟩
          · rw [stripFrom_removed found] at leads
            obtain ⟨rest, shape⟩ := leads
            obtain ⟨after, joins⟩ :=
              ended.joins _ shape.symm (unended first (List.mem_cons_self ..))
            exact ⟨[], after, .passed found joins, Nat.succ_pos _⟩

/-- A name that a kept character begins, in front of what stripping leaves of the rest, was
joined. -/
theorem joins_of_leads {name : List Char} (kept : matchLength? (character :: rest) = none)
    (known : name ∈ names) (leads : name <+: character :: stripFrom 0 rest) :
    ∃ before after, Joins (character :: rest) before after ∧ Straddles before after := by
  cases name with
  | nil => exact absurd rfl (names_proper _ known)
  | cons first lead =>
      obtain ⟨rfl, behind⟩ := List.cons_prefix_cons.1 leads
      have unended : ∀ character ∈ lead, endsAttribute character = false :=
        fun _ member => names_unended _ known _ (List.mem_cons_of_mem _ member)
      obtain whole | ⟨before, after, joins, few⟩ := leads_stripFrom rest unended behind
      · exact absurd ⟨_, known, List.cons_prefix_cons.2 ⟨rfl, whole⟩⟩ (not_begins kept)
      · rw [joins.stripFrom_eq] at behind
        obtain ⟨back, rfl⟩ :=
          List.prefix_of_prefix_length_le (List.prefix_append ..) behind few.le
        refine ⟨_, after, .kept kept joins, first :: before, back, known, List.cons_ne_nil _ _, ?_,
          List.suffix_rfl, (List.prefix_append_right_inj _).1 behind⟩
        rintro rfl
        simp at few

/-- A name that stands in a stripped text was joined. -/
theorem holds_stripFrom_iff (text : List Char) :
    Holds (stripFrom 0 text) ↔
      ∃ before after, Joins text before after ∧ Straddles before after := by
  constructor
  · induction text using scan_induction with
    | nil =>
        rintro ⟨name, known, inside⟩
        exact absurd (List.infix_nil.1 inside) (names_proper name known)
    | kept character rest kept ih =>
        rintro ⟨name, known, inside⟩
        rw [stripFrom_kept kept] at inside
        rcases List.infix_cons_iff.1 inside with leads | inside
        · exact joins_of_leads kept known leads
        · obtain ⟨before, after, joins, front, back, known, begun, left, trails, leads⟩ :=
            ih ⟨name, known, inside⟩
          exact ⟨_, after, .kept kept joins, front, back, known, begun, left,
            trails.trans (List.suffix_cons ..), leads⟩
    | removed text length found ih =>
        intro held
        rw [stripFrom_removed found] at held
        obtain ⟨before, after, joins, straddles⟩ := ih held
        exact ⟨before, after, .passed found joins, straddles⟩
  · rintro ⟨before, after, joins, front, back, known, -, -, ⟨start, rfl⟩, ⟨rest, rfl⟩⟩
    exact ⟨_, known, start, rest, by simp [joins.stripFrom_eq]⟩

/-! ## Stripping again -/

/-- Stripping the text joins no name. -/
def Settles (text : String) : Prop :=
  ¬∃ before after, Joins text.toList before after ∧ Straddles before after

theorem strip_eq_self_iff {text : String} : strip text = text ↔ ¬Holds text.toList := by
  rw [← stripFrom_eq_self_iff, strip, ← String.toList_inj, String.toList_ofList]

/-- A text that was stripped stays as it is exactly when stripping it joined no name. -/
theorem strip_strip_iff {text : String} : strip (strip text) = strip text ↔ Settles text := by
  rw [strip_eq_self_iff, Settles, ← holds_stripFrom_iff, strip, String.toList_ofList]

/-- Quotation marks are needed to join a name. -/
theorem Joins.quotes (joins : Joins text before after) : '"' ∈ text := by
  induction joins with
  | here quoted =>
      obtain ⟨blanks, mark, value, -, -, -, -⟩ := quoted
      simp
  | kept kept joins ih => exact List.mem_cons_of_mem _ ih
  | passed found joins ih => exact List.mem_of_mem_drop ih

theorem settles_of_unquoted {text : String} (unquoted : '"' ∉ text.toList) : Settles text := by
  rintro ⟨before, after, joins, -⟩
  exact unquoted joins.quotes

theorem length_strip_lt {text : String} (held : Holds text.toList) :
    (strip text).length < text.length := by
  rw [strip, String.length_ofList, ← String.length_toList]
  exact length_stripFrom_lt _ held

/-- Stripping a text again and again comes to an end. -/
theorem strip_iterate (text : String) :
    ∃ times ≤ text.length, strip (strip^[times] text) = strip^[times] text := by
  induction size : text.length using Nat.strongRecOn generalizing text with
  | ind length ih =>
      by_cases held : Holds text.toList
      · have less : (strip text).length < length := size ▸ length_strip_lt held
        obtain ⟨times, few, settled⟩ := ih _ less (strip text) rfl
        exact ⟨times + 1, few.trans_lt less, settled⟩
      · exact ⟨0, Nat.zero_le _, strip_eq_self_iff.2 held⟩

/-! ## Saved logs -/

theorem compactHistory_eq_self_iff {lines : List HistoryEntry} :
    compactHistory lines = lines ↔
      ∀ line ∈ lines, strip line.text = line.text ∧ line.step = none := by
  rw [compactHistory]
  constructor
  · intro same line member
    have kept := List.map_inj_left.1 (same.trans (List.map_id lines).symm) line member
    exact ⟨congrArg HistoryEntry.text kept, (congrArg HistoryEntry.step kept).symm⟩
  · intro clean
    refine (List.map_congr_left fun line member => ?_).trans (List.map_id lines)
    obtain ⟨text, step⟩ := clean line member
    rw [text, ← step]
    rfl

/-- A log that was saved and loaded is left as it is by the next save exactly when stripping its
texts joined no name. -/
theorem compactHistory_replace_iff (history : History) (lines : List HistoryEntry) :
    compactHistory (history.replace (compactHistory lines)).entries =
        (history.replace (compactHistory lines)).entries ↔
      ∀ line ∈ (history.replace lines).entries, Settles line.text := by
  rw [compactHistory_eq_self_iff]
  have kept : (history.replace (compactHistory lines)).entries =
      compactHistory (history.replace lines).entries := by
    rw [compactHistory, History.replace_map]
    rfl
  rw [kept]
  simp [compactHistory, strip_strip_iff]

/-- A compacted log is read from its document as it was. -/
theorem compactHistory_written (lines : List HistoryEntry) :
    Json.listOf? HistoryEntry.ofJson? (SaveRecord.historyToJson (compactHistory lines)).written =
      some (compactHistory lines) :=
  (Json.listOf?_written fun line _ => HistoryEntry.ofJson?_written line).trans
    (congrArg some (List.map_id _))

/-- Stripping a text once more changes it exactly when the first time has joined what was on both
sides of a quoted attribute to a name. It never does so in a text without quotation marks, and it
comes to an end for every text. A log that was compacted, written, read and taken in by another log
is compacted to itself exactly when this holds of no text that is left in it. -/
theorem strip_again (text : String) (history : History) (lines : List HistoryEntry) :
    (strip (strip text) = strip text ↔ Settles text) ∧
    ('"' ∉ text.toList → Settles text) ∧
    (∃ times ≤ text.length, strip (strip^[times] text) = strip^[times] text) ∧
    Json.listOf? HistoryEntry.ofJson?
        (SaveRecord.historyToJson (compactHistory lines)).written = some (compactHistory lines) ∧
    (compactHistory (history.replace (compactHistory lines)).entries =
        (history.replace (compactHistory lines)).entries ↔
      ∀ line ∈ (history.replace lines).entries, Settles line.text) :=
  ⟨strip_strip_iff, settles_of_unquoted, strip_iterate text, compactHistory_written lines,
    compactHistory_replace_iff history lines⟩

/-- A line with a quoted attribute between the parts of a name. -/
def joinedLine : HistoryEntry :=
  .narration "_data-v-=\"\"_v"

/-- The rest of a name behind a quoted attribute joins its start, so the line is not the same in the
next save. -/
theorem strip_again_joined :
    ('"' ∉ "<b data-v-1a2b>x</b>".toList ∧ Settles "<b data-v-1a2b>x</b>") ∧
      strip joinedLine.text = "__v" ∧ strip "__v" = "" ∧ ¬Settles joinedLine.text ∧
      compactHistory ((History.new 1).replace (compactHistory [joinedLine])).entries ≠
        ((History.new 1).replace (compactHistory [joinedLine])).entries := by
  have unquoted : '"' ∉ "<b data-v-1a2b>x</b>".toList := by decide +kernel
  have first : strip joinedLine.text = "__v" := by decide +kernel
  have second : strip "__v" = "" := by decide +kernel
  obtain ⟨-, settles, -⟩ := strip_again "<b data-v-1a2b>x</b>" (.new 1) []
  obtain ⟨again, -, -, -, saved⟩ := strip_again joinedLine.text (.new 1) [joinedLine]
  have unsettled : ¬Settles joinedLine.text := by
    rw [← again, first, second]
    decide
  refine ⟨⟨unquoted, settles unquoted⟩, first, second, unsettled, fun same => ?_⟩
  exact unsettled (saved.1 same joinedLine (List.mem_singleton.2 rfl))

end Markup

end VisualNovel
