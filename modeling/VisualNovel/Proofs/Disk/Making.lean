import VisualNovel.Proofs.Disk.Directories

/-!
# Making directories

A directory that is there is not made again. What is made has the names of its path, so the names of
every directory stay names that an entry can have.
-/

namespace VisualNovel

namespace DiskNode

/-- Every directory has its entries in order, under names that an entry can have. -/
inductive Tidy : DiskNode → Prop where
  | file (content : Option String) : Tidy (.file content)
  | directory {entries : Dict DiskNode} : Dict.Sorted entries →
      (∀ entry ∈ entries, Disk.IsPlain entry.1) → (∀ entry ∈ entries, Tidy entry.2) →
      Tidy (.directory entries)

variable {tree node changed : DiskNode} {entries : Dict DiskNode} {name : String}
variable {location : List String}

theorem Tidy.sorted (tidy : (DiskNode.directory entries).Tidy) : Dict.Sorted entries := by
  cases tidy with
  | directory sorted _ _ => exact sorted

theorem Tidy.named (tidy : (DiskNode.directory entries).Tidy) {entry : String × DiskNode}
    (member : entry ∈ entries) : Disk.IsPlain entry.1 := by
  cases tidy with
  | directory _ named _ => exact named entry member

theorem Tidy.entry (tidy : (DiskNode.directory entries).Tidy) {child : DiskNode}
    (selected : Dict.get? entries name = some child) : child.Tidy := by
  cases tidy with
  | directory _ _ each => exact each _ (Dict.mem_of_get? selected)

theorem Tidy.find? (tidy : tree.Tidy) (found : find? location tree = some node) : node.Tidy := by
  induction location generalizing tree with
  | nil =>
      cases found
      exact tidy
  | cons first location ih =>
      cases tree with
      | file content => cases found
      | directory entries =>
          obtain ⟨child, selected, found⟩ := Option.bind_eq_some_iff.1 found
          exact ih (tidy.entry selected) found

theorem Tidy.insert (tidy : (DiskNode.directory entries).Tidy) (plain : Disk.IsPlain name)
    (inner : node.Tidy) : (DiskNode.directory (Dict.insert name node entries)).Tidy := by
  cases tidy with
  | directory sorted named each =>
      refine .directory (sorted.insert name node) ?_ ?_
      all_goals
        intro entry member
        rcases Dict.mem_insert member with rfl | member
      · exact plain
      · exact named entry member
      · exact inner
      · exact each entry member

theorem Tidy.filter (tidy : (DiskNode.directory entries).Tidy)
    (keep : String × DiskNode → Bool) : (DiskNode.directory (entries.filter keep)).Tidy := by
  cases tidy with
  | directory sorted named each =>
      exact .directory (sorted.filter keep)
        (fun entry member => named entry (List.mem_filter.1 member).1)
        fun entry member => each entry (List.mem_filter.1 member).1

/-- A tidy tree stays tidy when a tidy node is put under a name that an entry can have. -/
theorem Tidy.put? (tidy : tree.Tidy) (inner : node.Tidy) (plain : Disk.IsPlain name)
    (put : put? node (location ++ [name]) tree = some changed) : changed.Tidy := by
  induction location generalizing tree changed with
  | nil =>
      cases tree with
      | file content => cases put
      | directory entries =>
          cases put
          exact tidy.insert plain inner
  | cons first location ih =>
      cases tree with
      | file content => cases location <;> cases put
      | directory entries =>
          rw [List.cons_append, put?_cons (by simp)] at put
          obtain ⟨child, selected, put⟩ := Option.bind_eq_some_iff.1 put
          obtain ⟨other, deeper, rfl⟩ := Option.map_eq_some_iff.1 put
          exact tidy.insert (tidy.named (Dict.mem_of_get? selected))
            (ih (tidy.entry selected) deeper)

end DiskNode

namespace Disk

variable {disk changed : Disk} {location next : List String} {path name : String}
variable {entries : Dict DiskNode}

/-- A name of a path can be the name of an entry, unless it leads upwards. -/
theorem isPlain_of_mem_components (no_end : path.contains '\x00' = false)
    (member : name ∈ components path) (below : name ≠ "..") : IsPlain name := by
  obtain ⟨parts, kept⟩ := List.mem_filter.1 member
  obtain ⟨part, split, rfl⟩ := List.mem_map.1 parts
  simp only [Bool.and_eq_true, decide_eq_true_eq] at kept
  refine ⟨kept.1, kept.2, below, ?_, ?_⟩
  · rw [String.toList_ofList]
    exact Text.not_mem_of_mem_splitOn split
  · rw [String.toList_ofList]
    intro inside
    rw [String.contains_char_eq, decide_eq_false_iff_not] at no_end
    exact no_end (Text.mem_of_mem_splitOn split inside)

theorem find?_dropLast (found : disk.tree.find? location = some (.directory entries)) :
    ∃ others, disk.tree.find? location.dropLast = some (.directory others) := by
  rcases List.eq_nil_or_concat location with rfl | ⟨front, last, rfl⟩
  · exact ⟨entries, found⟩
  · rw [List.concat_eq_append, DiskNode.find?_append] at found
    obtain ⟨node, front_found, found⟩ := Option.bind_eq_some_iff.1 found
    obtain ⟨others, rfl⟩ := DiskNode.find?_directory_of_cons found
    exact ⟨others, by rw [List.concat_eq_append, List.dropLast_concat]; exact front_found⟩

theorem enterOrMake_of_enter {place : List String} (entered : disk.enter location name = .ok place) :
    enterOrMake (disk, location) name =
      match disk.tree.find? place with
      | some (.directory _) => .ok (disk, place)
      | some (.file _) => .error .occupied
      | none =>
        match DiskNode.put? (.directory []) place disk.tree with
        | some tree => .ok ({ disk with tree }, place)
        | none => .error .notFound := by
  simp only [enterOrMake, entered]
  rfl

/-- A directory is made under the last name of a path, or it is there. -/
theorem enterOrMake_tidy (tidy : disk.tree.Tidy) (plain : name ≠ ".." → IsPlain name)
    (made : enterOrMake (disk, location) name = .ok (changed, next)) : changed.tree.Tidy := by
  cases entered : disk.enter location name with
  | error cause =>
      simp only [enterOrMake, entered] at made
      cases made
  | ok place =>
      rw [enterOrMake_of_enter entered] at made
      split at made
      · cases made
        exact tidy
      · cases made
      · rename_i absent
        split at made
        · rename_i tree put
          cases made
          rw [enter] at entered
          split at entered
          · cases entered
          · cases entered
          · rename_i held found
            split at entered
            · -- The directory above is there, so nothing is made.
              cases entered
              obtain ⟨others, above⟩ := find?_dropLast found
              rw [above] at absent
              cases absent
            · rename_i below
              split at entered
              · cases entered
              · cases entered
                exact tidy.put? (.directory .nil (by simp) (by simp)) (plain below) put
        · cases made

theorem foldlM_enterOrMake_tidy {names : List String} (tidy : disk.tree.Tidy)
    (plain : ∀ name ∈ names, name ≠ ".." → IsPlain name)
    (made : names.foldlM enterOrMake (disk, location) = .ok (changed, next)) :
    changed.tree.Tidy := by
  induction names generalizing disk location with
  | nil =>
      cases made
      exact tidy
  | cons name names ih =>
      obtain ⟨first, others⟩ := List.forall_mem_cons.1 plain
      rw [List.foldlM_cons] at made
      cases step : enterOrMake (disk, location) name with
      | error cause =>
          rw [step] at made
          cases made
      | ok between =>
          rw [step] at made
          exact ih (enterOrMake_tidy tidy first step) others made

/-- Making directories leaves the disk tidy. -/
theorem makeDirectories_tidy (tidy : disk.tree.Tidy)
    (made : disk.makeDirectories path = .ok changed) : changed.tree.Tidy := by
  rw [makeDirectories] at made
  split at made
  · cases made
  · rename_i no_end
    split at made
    · cases made
    · have plain : ∀ name ∈ components path, name ≠ ".." → IsPlain name := fun name member =>
        isPlain_of_mem_components (by simpa using no_end) member
      cases steps : (components path).foldlM enterOrMake (disk, disk.startOf path) with
      | error cause =>
          change ((components path).foldlM enterOrMake (disk, disk.startOf path)).map _ = _ at made
          rw [steps] at made
          cases made
      | ok last =>
          change ((components path).foldlM enterOrMake (disk, disk.startOf path)).map _ = _ at made
          rw [steps] at made
          cases made
          exact foldlM_enterOrMake_tidy tidy plain steps

theorem directory_of_enter (entered : disk.enter location name = .ok next) :
    ∃ held, disk.tree.find? location = some (.directory held) := by
  rw [enter] at entered
  split at entered
  · cases entered
  · cases entered
  · rename_i held found
    exact ⟨held, found⟩

theorem foldlM_enterOrMake_eq {names : List String}
    (entered : names.foldlM disk.enter location = .ok next)
    (found : disk.tree.find? next = some (.directory entries)) :
    names.foldlM enterOrMake (disk, location) = .ok (disk, next) := by
  induction names generalizing location with
  | nil =>
      cases entered
      rfl
  | cons name names ih =>
      rw [List.foldlM_cons] at entered ⊢
      cases step : disk.enter location name with
      | error cause =>
          rw [step] at entered
          cases entered
      | ok between =>
          rw [step] at entered
          -- Going further is possible from a directory only.
          have standing : ∃ held, disk.tree.find? between = some (.directory held) := by
            cases names with
            | nil =>
                cases entered
                exact ⟨entries, found⟩
            | cons further names =>
                cases second : disk.enter between further with
                | error cause =>
                    change ((further :: names).foldlM disk.enter between) = _ at entered
                    rw [List.foldlM_cons, second] at entered
                    cases entered
                | ok place => exact directory_of_enter second
          obtain ⟨held, standing⟩ := standing
          rw [enterOrMake_of_enter step, standing]
          exact ih entered

/-- A directory that is there is not made again. -/
theorem Lists.makeDirectories_eq (lists : disk.Lists path location entries) :
    disk.makeDirectories path = .ok disk := by
  obtain ⟨-, no_end, short, entered⟩ := (locate_eq_ok_iff disk).1 lists.located
  rw [makeDirectories, if_neg (by simp [no_end]), if_neg (Nat.not_le.2 short)]
  change ((components path).foldlM enterOrMake (disk, disk.startOf path)).map _ = _
  rw [foldlM_enterOrMake_eq entered lists.found]
  rfl

end Disk

end VisualNovel
