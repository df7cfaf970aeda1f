import VisualNovel.Disk
import VisualNovel.Proofs.Text.Trim

/-!
# Paths of entries

The path of an entry leads where the path of its directory leads, and one name further. This holds of
every name that can be the name of an entry, whatever the path of the directory looks like.
-/

namespace VisualNovel

namespace Disk

/-- The name stands for an entry of a directory: it is not empty, no dots alone, and has no character
that divides or ends a path. -/
structure IsPlain (name : String) : Prop where
  some_text : name ≠ ""
  not_here : name ≠ "."
  not_above : name ≠ ".."
  undivided : '/' ∉ name.toList
  no_end : '\x00' ∉ name.toList

variable {path name : String}

theorem startsWith_iff (text : String) : text.startsWith "/" = true ↔ ['/'] <+: text.toList :=
  String.startsWith_string_iff

theorem endsWith_iff (text : String) : text.endsWith "/" = true ↔ ['/'] <:+ text.toList := by
  rw [← String.endsWith_toSlice, String.Slice.endsWith_string_iff]
  simp

theorem isEmpty_eq_false {text : String} (proper : text ≠ "") : text.isEmpty = false := by
  rw [Bool.eq_false_iff]
  intro empty
  exact proper (String.isEmpty_iff.1 empty)

theorem IsPlain.relative (plain : IsPlain name) : name.startsWith "/" = false := by
  rw [Bool.eq_false_iff]
  intro absolute
  obtain ⟨rest, shape⟩ := (startsWith_iff name).1 absolute
  exact plain.undivided (shape ▸ List.mem_cons_self ..)

/-! ## Joined paths -/

theorem join_empty (path : String) : join "" path = path := by
  simp [join]

theorem join_absolute (absolute : name.startsWith "/" = true) : join path name = name := by
  simp only [join]
  rw [absolute]
  rfl

/-- What stands between a directory and a name behind it. -/
theorem join_eq_append (proper : path ≠ "") (relative : name.startsWith "/" = false) :
    join path name = path ++ (if path.endsWith "/" then "" else "/") ++ name := by
  simp only [join]
  rw [relative, isEmpty_eq_false proper]
  split
  · rename_i absurd
    cases absurd
  · split
    · rw [String.append_empty]
    · rfl

theorem join_ne_empty (path : String) (proper : name ≠ "") : join path name ≠ "" := by
  simp only [join]
  split
  · exact proper
  · split
    · exact fun empty => proper (String.append_eq_empty_iff.1 empty).2
    · exact fun empty => proper (String.append_eq_empty_iff.1 empty).2

/-- The names of a joined path are those of its directory and those of the relative path. -/
theorem components_join_relative (path : String) (relative : name.startsWith "/" = false) :
    components (join path name) = components path ++ components name := by
  by_cases proper : path = ""
  · subst proper
    rw [join_empty]
    rfl
  · rw [join_eq_append proper relative]
    split
    · rename_i ended
      obtain ⟨front, shape⟩ := (endsWith_iff path).1 ended
      simp only [components]
      rw [String.append_empty, String.toList_append, ← shape, List.append_assoc,
        List.singleton_append, Text.splitOn_append, Text.splitOn_append]
      simp [Text.splitOn]
    · simp only [components]
      rw [String.toList_append, String.toList_append, List.append_assoc]
      change List.filter _ (List.map _ (Text.splitOn '/' (path.toList ++ '/' :: name.toList))) = _
      rw [Text.splitOn_append, List.map_append, List.filter_append]

theorem startsWith_append (proper : path ≠ "") (name : String) :
    (path ++ name).startsWith "/" = path.startsWith "/" := by
  rw [Bool.eq_iff_iff, startsWith_iff, startsWith_iff, String.toList_append]
  cases shape : path.toList with
  | nil => exact absurd (String.toList_eq_nil_iff.1 shape) proper
  | cons character front => simp

theorem startsWith_join_relative (proper : path ≠ "") (relative : name.startsWith "/" = false) :
    (join path name).startsWith "/" = path.startsWith "/" := by
  rw [join_eq_append proper relative, String.append_assoc, startsWith_append proper]

theorem IsPlain.components (plain : IsPlain name) : Disk.components name = [name] := by
  simp only [Disk.components]
  rw [Text.splitOn_single plain.undivided]
  simp [plain.some_text, plain.not_here]

theorem components_join (plain : IsPlain name) (path : String) :
    components (join path name) = components path ++ [name] := by
  rw [components_join_relative path plain.relative, plain.components]

theorem contains_join (plain : IsPlain name) (proper : path ≠ "") :
    (join path name).contains '\x00' = path.contains '\x00' := by
  rw [join_eq_append proper plain.relative, Bool.eq_iff_iff, String.contains_char_eq,
    String.contains_char_eq]
  split <;> simp [plain.no_end]

theorem utf8ByteSize_le_join (relative : name.startsWith "/" = false) (proper : path ≠ "") :
    path.utf8ByteSize ≤ (join path name).utf8ByteSize := by
  rw [join_eq_append proper relative, String.utf8ByteSize_append, String.utf8ByteSize_append]
  omega

theorem foldlM_enter (disk : Disk) (start : List String) (names : List String) (name : String) :
    (names ++ [name]).foldlM disk.enter start =
      (names.foldlM disk.enter start).bind fun location => disk.enter location name := by
  rw [List.foldlM_append]
  simp only [List.foldlM_cons, List.foldlM_nil, bind_pure]
  rfl

/-- The path of an entry leads where the path of its directory leads, and one name further, unless it
is too long. -/
theorem locate_join (disk : Disk) (plain : IsPlain name) (proper : path ≠ "")
    (short : (join path name).utf8ByteSize < pathLimit) :
    disk.locate (join path name) =
      (disk.locate path).bind fun location => disk.enter location name := by
  have some_path := isEmpty_eq_false proper
  have some_join := isEmpty_eq_false (join_ne_empty path plain.some_text)
  have shorter := utf8ByteSize_le_join plain.relative proper
  simp only [locate, some_join, some_path, Bool.false_eq_true, if_false, contains_join plain proper,
    startsWith_join_relative proper plain.relative, components_join plain path, foldlM_enter]
  split
  · rfl
  · rw [if_neg (show ¬(join path name).utf8ByteSize ≥ pathLimit by omega),
      if_neg (show ¬path.utf8ByteSize ≥ pathLimit by omega)]

/-- The directory where a path begins. -/
def startOf (disk : Disk) (path : String) : List String :=
  if path.startsWith "/" then [] else disk.current

/-- Where a path leads, with the zero character looked for in the list of its characters. -/
theorem locate_eq (disk : Disk) (path : String) :
    disk.locate path =
      if path.isEmpty then .error .notFound
      else if path.toList.contains '\x00' then .error .invalidPath
      else if path.utf8ByteSize ≥ pathLimit then .error .tooLong
      else (components path).foldlM disk.enter (disk.startOf path) := by
  have same : path.contains '\x00' = path.toList.contains '\x00' := by
    rw [Bool.eq_iff_iff, String.contains_char_eq, List.contains_iff_mem]
    exact decide_eq_true_iff
  simp only [locate, same, startOf]

/-- A path leads to a place when it is no empty text, and short, and its names lead there. -/
theorem locate_eq_ok_iff (disk : Disk) {location : List String} :
    disk.locate path = .ok location ↔
      path.isEmpty = false ∧ path.contains '\x00' = false ∧ path.utf8ByteSize < pathLimit ∧
        (components path).foldlM disk.enter (disk.startOf path) = .ok location := by
  rw [locate]
  cases path.isEmpty with
  | true => simp
  | false =>
      cases path.contains '\x00' with
      | true => simp
      | false =>
          by_cases long : path.utf8ByteSize ≥ pathLimit
          · simp [long, Nat.not_lt.2 long]
          · simp [long, Nat.lt_of_not_le long, startOf]

end Disk

end VisualNovel
