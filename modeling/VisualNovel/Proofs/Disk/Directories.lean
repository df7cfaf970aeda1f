import VisualNovel.Proofs.Disk.Paths
import VisualNovel.Proofs.Disk.Trees

/-!
# Files of a directory

A file that is written is an entry of its directory, and one that is removed is none. Neither changes
where paths lead, so the directory is found again under its path.
-/

namespace VisualNovel

namespace Disk

variable {disk changed : Disk} {location : List String} {path name : String}

/-! ## Places that stay -/

/-- Every directory of the disk stays one, and relative paths begin at the same place. -/
structure Keeps (disk changed : Disk) : Prop where
  tree : disk.tree.Keeps changed.tree
  current : changed.current = disk.current

theorem Keeps.refl (disk : Disk) : disk.Keeps disk := ⟨.refl _, rfl⟩

theorem Keeps.trans {between : Disk} (first : disk.Keeps between) (second : between.Keeps changed) :
    disk.Keeps changed :=
  ⟨first.tree.trans second.tree, second.current.trans first.current⟩

theorem Keeps.enter (keeps : disk.Keeps changed) {next : List String}
    (entered : disk.enter location name = .ok next) : changed.enter location name = .ok next := by
  simp only [Disk.enter] at entered ⊢
  split at entered
  · cases entered
  · cases entered
  · rename_i found
    obtain ⟨others, found⟩ := keeps.tree _ _ found
    rw [found]
    exact entered

theorem Keeps.foldlM_enter (keeps : disk.Keeps changed) {names next : List String}
    (entered : names.foldlM disk.enter location = .ok next) :
    names.foldlM changed.enter location = .ok next := by
  induction names generalizing location with
  | nil => exact entered
  | cons name names ih =>
      rw [List.foldlM_cons] at entered ⊢
      cases step : disk.enter location name with
      | error cause =>
          rw [step] at entered
          cases entered
      | ok between =>
          rw [step] at entered
          rw [keeps.enter step]
          exact ih entered

/-- A path that leads to a place still leads there. -/
theorem Keeps.locate (keeps : disk.Keeps changed) (located : disk.locate path = .ok location) :
    changed.locate path = .ok location := by
  rw [locate_eq_ok_iff] at located ⊢
  obtain ⟨some_path, no_end, short, entered⟩ := located
  have start : changed.startOf path = disk.startOf path := by
    simp only [startOf, keeps.current]
  refine ⟨some_path, no_end, short, ?_⟩
  rw [start]
  exact keeps.foldlM_enter entered

/-! ## Directories -/

/-- The path leads to a directory with the entries. -/
structure Lists (disk : Disk) (path : String) (location : List String) (entries : Dict DiskNode) :
    Prop where
  located : disk.locate path = .ok location
  found : disk.tree.find? location = some (.directory entries)

variable {entries : Dict DiskNode} {text : String}

theorem node_of_located (located : disk.locate path = .ok location) :
    disk.node path = (disk.tree.find? location).elim (.error .notFound) .ok := by
  simp only [node, located, bind, Except.bind]
  cases disk.tree.find? location <;> rfl

theorem Lists.proper (lists : disk.Lists path location entries) : path ≠ "" := by
  rintro rfl
  cases lists.located

theorem Lists.entries_eq (lists : disk.Lists path location entries) :
    disk.entries path = .ok entries := by
  rw [Disk.entries, node_of_located lists.located, lists.found]
  rfl

/-- The directory can hold an entry of the name. -/
structure Fits (path name : String) : Prop where
  plain : IsPlain name
  short_name : name.utf8ByteSize ≤ nameLimit
  short_path : (join path name).utf8ByteSize < pathLimit

/-- The entry of a directory stands at its path. -/
theorem Lists.locate_join (lists : disk.Lists path location entries) (fits : Fits path name) :
    disk.locate (join path name) = .ok (location ++ [name]) := by
  rw [Disk.locate_join disk fits.plain lists.proper fits.short_path, lists.located]
  change disk.enter location name = _
  rw [enter, lists.found]
  simp only
  rw [if_neg fits.plain.not_above, if_neg (Nat.not_lt.2 fits.short_name)]

/-- What stands at the path of an entry is the entry. -/
theorem Lists.eq_of_locate (lists : disk.Lists path location entries) (plain : IsPlain name)
    {place : List String} (located : disk.locate (join path name) = .ok place) :
    place = location ++ [name] := by
  have short := ((locate_eq_ok_iff disk).1 located).2.2.1
  rw [Disk.locate_join disk plain lists.proper short, lists.located] at located
  change disk.enter location name = _ at located
  rw [enter, lists.found] at located
  simp only at located
  rw [if_neg plain.not_above] at located
  split at located
  · cases located
  · cases located
    rfl

/-- A path of an entry that leads somewhere leads through a directory. -/
theorem lists_of_locate_join (plain : IsPlain name) (proper : path ≠ "") {place : List String}
    (located : disk.locate (join path name) = .ok place) :
    ∃ location entries, disk.Lists path location entries := by
  have short := ((locate_eq_ok_iff disk).1 located).2.2.1
  rw [Disk.locate_join disk plain proper short] at located
  cases front : disk.locate path with
  | error cause =>
      rw [front] at located
      cases located
  | ok location =>
      rw [front] at located
      change disk.enter location name = _ at located
      rw [enter] at located
      split at located
      · cases located
      · cases located
      · rename_i held found
        exact ⟨location, held, front, found⟩

/-! ## Files of a directory -/

theorem Lists.find?_entry (lists : disk.Lists path location entries) (name : String) :
    disk.tree.find? (location ++ [name]) = Dict.get? entries name := by
  rw [DiskNode.find?_append, lists.found]
  change (Dict.get? entries name).bind (DiskNode.find? []) = _
  cases Dict.get? entries name <;> rfl

theorem writeFile_of_located (located : disk.locate path = .ok location) (content : Option String) :
    disk.writeFile path content =
      match disk.tree.find? location with
      | some (.directory _) => .error .isDirectory
      | _ =>
        match DiskNode.put? (.file content) location disk.tree with
        | some tree => .ok { disk with tree }
        | none => .error .notFound := by
  rw [writeFile, located]
  rfl

theorem located_of_writeText (wrote : disk.writeText path text = .ok changed) :
    ∃ place, disk.locate path = .ok place := by
  cases located : disk.locate path with
  | error cause =>
      rw [writeText, writeFile, located] at wrote
      cases wrote
  | ok place => exact ⟨place, rfl⟩

/-- A file that is written is an entry of its directory, in the place of one with its name. -/
theorem Lists.writeText_join (lists : disk.Lists path location entries) (plain : IsPlain name)
    (wrote : disk.writeText (join path name) text = .ok changed) :
    changed.Lists path location (Dict.insert name (.file (some text)) entries) ∧
      disk.Keeps changed := by
  obtain ⟨place, located⟩ := located_of_writeText wrote
  rw [writeText, writeFile_of_located located] at wrote
  cases lists.eq_of_locate plain located
  rw [lists.find?_entry] at wrote
  split at wrote
  · cases wrote
  · rename_i free
    split at wrote
    · rename_i tree put
      cases wrote
      have keeps : disk.Keeps { disk with tree } := ⟨DiskNode.put?_keeps lists.found free put, rfl⟩
      exact ⟨⟨keeps.locate lists.located, DiskNode.find?_put? lists.found put⟩, keeps⟩
    · cases wrote

/-- A file is written unless a directory stands in its place. -/
theorem Lists.writeText_ok (lists : disk.Lists path location entries) (fits : Fits path name)
    (free : ∀ held, Dict.get? entries name ≠ some (.directory held)) (text : String) :
    ∃ changed, disk.writeText (join path name) text = .ok changed := by
  rw [writeText, writeFile_of_located (lists.locate_join fits), lists.find?_entry]
  split
  · rename_i held stored
    exact absurd stored (free held)
  · obtain ⟨tree, put⟩ := DiskNode.put?_of_find? lists.found (.file (some text)) name
    exact ⟨_, by rw [put]⟩

theorem removeFile_of_located (located : disk.locate path = .ok location) :
    disk.removeFile path =
      match disk.tree.find? location with
      | none => .error .notFound
      | some (.directory _) => .error .isDirectory
      | some (.file _) =>
        match disk.tree.remove? location with
        | some tree => .ok { disk with tree }
        | none => .error .notFound := by
  rw [removeFile, node_of_located located]
  cases disk.tree.find? location with
  | none => rfl
  | some node =>
      cases node with
      | directory held => rfl
      | file content =>
          change (disk.locate path >>= _) = _
          rw [located]
          rfl

/-- A file that is removed is no entry of its directory. -/
theorem Lists.removeFile_join (lists : disk.Lists path location entries) (plain : IsPlain name)
    (removed : disk.removeFile (join path name) = .ok changed) :
    changed.Lists path location (Dict.erase name entries) ∧ disk.Keeps changed := by
  cases located : disk.locate (join path name) with
  | error cause =>
      rw [removeFile, node, located] at removed
      cases removed
  | ok place =>
      rw [removeFile_of_located located] at removed
      cases lists.eq_of_locate plain located
      rw [lists.find?_entry] at removed
      split at removed
      · cases removed
      · cases removed
      · rename_i content stored
        split at removed
        · rename_i tree remove
          cases removed
          have free : ∀ held, Dict.get? entries name ≠ some (.directory held) := by
            rw [stored]
            exact fun held same => by cases same
          have keeps : disk.Keeps { disk with tree } :=
            ⟨DiskNode.remove?_keeps lists.found free remove, rfl⟩
          exact ⟨⟨keeps.locate lists.located, DiskNode.find?_remove? lists.found remove⟩, keeps⟩
        · cases removed

/-- A file of a directory is removed. -/
theorem Lists.removeFile_ok (lists : disk.Lists path location entries) (fits : Fits path name)
    {content : Option String} (stored : Dict.get? entries name = some (.file content)) :
    ∃ changed, disk.removeFile (join path name) = .ok changed := by
  rw [removeFile_of_located (lists.locate_join fits), lists.find?_entry, stored]
  obtain ⟨tree, removed⟩ := DiskNode.remove?_of_find? lists.found stored
  exact ⟨{ disk with tree }, by simp [removed]⟩

end Disk

end VisualNovel
