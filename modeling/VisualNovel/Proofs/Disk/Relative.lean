import VisualNovel.Proofs.Disk.Paths

/-!
# Relative paths

A relative path without a parent directory leads from a directory into that directory. Joining such
paths gives such a path again, and what it is joined to stays in front of it.
-/

namespace VisualNovel

namespace Disk

/-- A path that begins at a directory and does not lead out of it: it is not absolute, and none of
its names is that of the parent directory. -/
structure Inward (path : String) : Prop where
  relative : path.startsWith "/" = false
  no_parent : ".." ∉ components path

variable {path name : String}

theorem endsWith_iff_getLast? (text : String) :
    text.endsWith "/" = true ↔ text.toList.getLast? = some '/' := by
  rw [endsWith_iff, List.getLast?_eq_some_iff]
  constructor
  · intro ⟨front, shape⟩
    exact ⟨front, shape.symm⟩
  · intro ⟨front, shape⟩
    exact ⟨front, shape.symm⟩

theorem endsWith_append (path : String) (proper : name ≠ "") :
    (path ++ name).endsWith "/" = name.endsWith "/" := by
  have some_name : name.toList ≠ [] := fun none => proper (String.toList_eq_nil_iff.1 none)
  rw [Bool.eq_iff_iff, endsWith_iff_getLast?, endsWith_iff_getLast?, String.toList_append,
    List.getLast?_append, Option.or_of_isSome (List.getLast?_isSome.2 some_name)]

/-- Relative paths can be joined in any order. -/
theorem join_join (directory : String) (proper : path ≠ "") (between : path.startsWith "/" = false)
    (relative : name.startsWith "/" = false) :
    join (join directory path) name = join directory (join path name) := by
  by_cases here : directory = ""
  · subst here
    rw [join_empty, join_empty]
  · have both := startsWith_join_relative proper relative
    rw [between] at both
    rw [join_eq_append (join_ne_empty directory proper) relative, join_eq_append here both,
      join_eq_append here between,
      join_eq_append proper relative, endsWith_append _ proper]
    simp only [String.append_assoc]

/-- Inward paths can be joined. -/
theorem Inward.join (first : Inward path) (second : Inward name) : Inward (join path name) := by
  constructor
  · by_cases proper : path = ""
    · subst proper
      rw [join_empty]
      exact second.relative
    · rw [startsWith_join_relative proper second.relative]
      exact first.relative
  · rw [components_join_relative path second.relative, List.mem_append]
    intro either
    rcases either with early | late
    · exact first.no_parent early
    · exact second.no_parent late

/-- Joined paths lead inward only if the second one does so itself. -/
theorem Inward.of_join (joined : Inward (Disk.join path name)) : Inward name := by
  have relative : name.startsWith "/" = false := by
    rw [Bool.eq_false_iff]
    intro absolute
    have alone := joined.relative
    rw [join_absolute absolute, absolute] at alone
    cases alone
  have none := joined.no_parent
  rw [components_join_relative path relative, List.mem_append, not_or] at none
  exact ⟨relative, none.2⟩

theorem parent_mem_components_iff (path : String) :
    ".." ∈ components path ↔ ['.', '.'] ∈ Text.splitOn '/' path.toList := by
  simp only [components, List.mem_filter, List.mem_map]
  constructor
  · rintro ⟨⟨characters, part, same⟩, -⟩
    have spelled := congrArg String.toList same
    rw [String.toList_ofList] at spelled
    rw [← show characters = ['.', '.'] from spelled]
    exact part
  · intro part
    exact ⟨⟨['.', '.'], part, rfl⟩, rfl⟩

/-- Joined paths lead inward only if the first one does so itself. -/
theorem Inward.left_of_join (joined : Inward (Disk.join path name))
    (relative : name.startsWith "/" = false) : Inward path := by
  have none := joined.no_parent
  rw [components_join_relative path relative, List.mem_append, not_or] at none
  refine ⟨?_, none.1⟩
  by_cases proper : path = ""
  · subst proper
    rfl
  · rw [← startsWith_join_relative proper relative]
    exact joined.relative

/-- The name of the parent directory is no longer one with an extension behind it. -/
theorem Inward.append (inward : Inward path) (proper : path ≠ "") {extension : String}
    (undivided : '/' ∉ extension.toList) (other : ¬ extension.toList <:+ ['.', '.']) :
    Inward (path ++ extension) := by
  refine ⟨(startsWith_append proper extension).trans inward.relative, ?_⟩
  obtain ⟨parts, part, alone, followed⟩ := Text.splitOn_append_last path.toList undivided
  have none := inward.no_parent
  rw [parent_mem_components_iff, alone, List.mem_append, not_or] at none
  rw [parent_mem_components_iff, String.toList_append, followed, List.mem_append, not_or]
  refine ⟨none.1, ?_⟩
  intro named
  exact other ⟨part, (List.mem_singleton.1 named).symm⟩

/-- Entering names other than that of the parent directory leads further inward. -/
theorem foldlM_enter_prefix (disk : Disk) {names start location : List String}
    (inward : ".." ∉ names) (leads : names.foldlM disk.enter start = .ok location) :
    start <+: location := by
  induction names generalizing start with
  | nil =>
      cases leads
      exact List.prefix_refl _
  | cons name names ih =>
      rw [List.mem_cons, not_or] at inward
      obtain ⟨other, inward⟩ := inward
      rw [List.foldlM_cons] at leads
      cases entered : disk.enter start name with
      | error cause =>
          rw [entered] at leads
          cases leads
      | ok next =>
          rw [entered] at leads
          have later := ih inward leads
          simp only [enter] at entered
          split at entered
          · cases entered
          · cases entered
          · rw [if_neg (Ne.symm other)] at entered
            split at entered
            · cases entered
            · cases entered
              exact (List.prefix_append start [name]).trans later

/-- An inward path leads from a directory to a place in this directory. -/
theorem Inward.below (inward : Inward name) {disk : Disk} {directory location : List String}
    (rooted : disk.locate path = .ok directory)
    (located : disk.locate (Disk.join path name) = .ok location) : directory <+: location := by
  obtain ⟨proper, -, -, first⟩ := (locate_eq_ok_iff disk).1 rooted
  obtain ⟨-, -, -, both⟩ := (locate_eq_ok_iff disk).1 located
  have proper : path ≠ "" := by
    intro empty
    subst empty
    cases proper
  have same : disk.startOf (Disk.join path name) = disk.startOf path := by
    simp only [startOf]
    rw [startsWith_join_relative proper inward.relative]
  rw [same, components_join_relative path inward.relative, List.foldlM_append, first] at both
  exact foldlM_enter_prefix disk inward.no_parent both

end Disk

end VisualNovel
