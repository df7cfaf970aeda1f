import Mathlib
import VisualNovel.Proofs.Disk.Making
import VisualNovel.Proofs.Saves.FileNames
import VisualNovel.Proofs.Saves.Nested
import VisualNovel.Proofs.Saves.Slots

/-!
# Save files in a directory

A file that is written is the only one of its slot in the directory, so it is what the slot is read
from. Whether it can be read is decided by its text alone.
-/

namespace VisualNovel

section

variable {ε δ α β : Type} {computation : Except ε α}

theorem bind_eq_ok_iff {next : α → Except ε β} {result : β} :
    computation >>= next = .ok result ↔
      ∃ value, computation = .ok value ∧ next value = .ok result := by
  cases computation <;> simp [bind, Except.bind]

theorem mapError_eq_ok_iff {rename : ε → δ} {value : α} :
    computation.mapError rename = .ok value ↔ computation = .ok value := by
  cases computation <;> simp [Except.mapError]

end

/-- The milliseconds of a representable time fit into a word. -/
theorem SaveFile.timestamp_new_lt (slot : Nat) (playerName : String) (game : SaveRecord)
    {now : Instant} (representable : Instant.isRepresentable now = true) :
    (SaveFile.new slot playerName game now).timestamp < 9223372036854775808 := by
  simp only [Instant.isRepresentable, Bool.and_eq_true, decide_eq_true_eq] at representable
  have positive : 0 < Instant.perMillisecond := by decide
  have late : now.milliseconds ≤ Instant.latest.milliseconds := by
    simp only [Instant.milliseconds, Int.fdiv_eq_ediv_of_nonneg _ (Int.le_of_lt positive)]
    exact Int.ediv_le_ediv positive representable.2
  exact Int.lt_of_le_of_lt late (by decide)

namespace DirectoryStore

open Disk (Fits IsPlain Lists join)

variable {store changed : DirectoryStore} {location : List String} {entries : Dict DiskNode}
  {file : SaveFile} {slot : Nat} {name : String}

/-! ## The save files among the entries -/

/-- The names of the save files among the entries of a directory, with their slots. -/
def slotEntries (entries : Dict DiskNode) : List (Nat × String) :=
  entries.filterMap fun (name, node) => (memberSlot? name node).map (·, name)

theorem mem_slotEntries :
    (slot, name) ∈ slotEntries entries ↔
      ∃ node, (name, node) ∈ entries ∧ memberSlot? name node = some slot := by
  rw [slotEntries, List.mem_filterMap]
  constructor
  · rintro ⟨⟨other, node⟩, member, found⟩
    obtain ⟨held, selected, same⟩ := Option.map_eq_some_iff.1 found
    cases same
    exact ⟨node, member, selected⟩
  · rintro ⟨node, member, selected⟩
    exact ⟨(name, node), member, by simp [selected]⟩

theorem mem_slotEntries_iff (sorted : Dict.Sorted entries) {entry : String × DiskNode}
    (member : entry ∈ entries) :
    (slot, entry.1) ∈ slotEntries entries ↔ memberSlot? entry.1 entry.2 = some slot := by
  rw [mem_slotEntries]
  constructor
  · rintro ⟨node, other, selected⟩
    cases (sorted.get?_of_mem member).symm.trans (sorted.get?_of_mem other)
    exact selected
  · exact fun selected => ⟨entry.2, member, selected⟩

/-- A file whose name begins with its slot is a save file of the slot. -/
theorem memberSlot?_fileName (bounded : file.slot < SaveFile.slotBound) (content : Option String) :
    memberSlot? file.fileName (.file content) = some file.slot := by
  rw [memberSlot?, SaveFile.splitExtension_fileName, SaveFile.slotOfName?_fileName bounded]
  rfl

/-- The save files of a directory, in the order of slots and names. -/
theorem slotFiles_of_lists (lists : store.disk.Lists store.path location entries) :
    store.slotFiles = .ok ((slotEntries entries).mergeSort fun left right =>
      left.1 < right.1 || (left.1 == right.1 && decide (left.2 ≤ right.2))) := by
  rw [slotFiles, lists.entries_eq]
  rfl

/-- A directory without a path has no save files. -/
theorem slotFiles_of_path_eq (nowhere : store.path = "") : store.slotFiles = .ok [] := by
  have missing : store.disk.entries store.path = .error .notFound := by
    rw [nowhere]
    rfl
  rw [slotFiles, missing]

theorem names_slotEntries_nodup (sorted : Dict.Sorted entries) :
    ((slotEntries entries).map Prod.snd).Nodup := by
  refine List.pairwise_map.2 (List.pairwise_filterMap.2 (sorted.imp ?_))
  rintro ⟨left, node⟩ ⟨right, other⟩ less _ first _ second same
  obtain ⟨_, -, rfl⟩ := Option.map_eq_some_iff.1 first
  obtain ⟨_, -, rfl⟩ := Option.map_eq_some_iff.1 second
  cases same
  exact String.lt_irrefl _ less

theorem staleFiles_of_lists (store : DirectoryStore)
    (lists : store.disk.Lists store.path location entries) (slot : Nat) (kept : Option String) :
    ∃ names, store.staleFiles slot kept = .ok names ∧ (Dict.Sorted entries → names.Nodup) ∧
      ∀ name, name ∈ names ↔ (slot, name) ∈ slotEntries entries ∧ kept ≠ some name := by
  rw [staleFiles, slotFiles_of_lists lists]
  refine ⟨_, rfl, fun sorted => ?_, fun name => ?_⟩
  · refine List.Nodup.sublist (List.filter_sublist.map Prod.snd) ?_
    exact ((List.mergeSort_perm _ _).map Prod.snd).nodup_iff.2 (names_slotEntries_nodup sorted)
  simp only [List.mem_map, List.mem_filter, List.mem_mergeSort, Bool.and_eq_true, decide_eq_true_eq]
  constructor
  · rintro ⟨⟨held, other⟩, ⟨member, rfl, stale⟩, rfl⟩
    exact ⟨member, stale⟩
  · rintro ⟨member, stale⟩
    exact ⟨(slot, name), ⟨member, rfl, stale⟩, rfl⟩

/-! ## Removed files -/

/-- What is left of a directory when files are removed. -/
theorem lists_of_removeFiles {names : List String}
    (lists : store.disk.Lists store.path location entries) (plain : ∀ name ∈ names, IsPlain name)
    (removed : store.removeFiles names = .ok changed) :
    store.disk.Keeps changed.disk ∧
      changed.disk.Lists store.path location (entries.filter fun entry => entry.1 ∉ names) := by
  induction names generalizing store entries with
  | nil =>
      cases removed
      refine ⟨.refl _, ?_⟩
      simpa using lists
  | cons name names ih =>
      rw [removeFiles] at removed
      split at removed
      · cases removed
      · rename_i disk first
        obtain ⟨front, others⟩ := List.forall_mem_cons.1 plain
        obtain ⟨left, keeps⟩ := lists.removeFile_join front first
        obtain ⟨further, left⟩ := ih left others removed
        refine ⟨keeps.trans further, ?_⟩
        rw [Dict.erase, List.filter_filter] at left
        simpa [Bool.and_comm] using left

/-- Files of the directory are removed. -/
theorem removeFiles_ok (store : DirectoryStore) {names : List String}
    (lists : store.disk.Lists store.path location entries) (distinct : names.Nodup)
    (fits : ∀ name ∈ names, Fits store.path name)
    (stored : ∀ name ∈ names, ∃ content, Dict.get? entries name = some (.file content)) :
    ∃ changed, store.removeFiles names = .ok changed := by
  induction names generalizing store entries with
  | nil => exact ⟨store, rfl⟩
  | cons name names ih =>
      obtain ⟨front, others⟩ := List.forall_mem_cons.1 fits
      obtain ⟨⟨content, here⟩, further⟩ := List.forall_mem_cons.1 stored
      obtain ⟨disk, removed⟩ := lists.removeFile_ok front here
      obtain ⟨left, -⟩ := lists.removeFile_join front.plain removed
      have still : ∀ other ∈ names, ∃ content,
          Dict.get? (Dict.erase name entries) other = some (.file content) := by
        intro other member
        have different : name ≠ other := fun same =>
          (List.nodup_cons.1 distinct).1 (same ▸ member)
        rw [Dict.get?_erase, if_neg different]
        exact further other member
      have rest := ih { store with disk } left (List.nodup_cons.1 distinct).2
        others still
      rw [removeFiles, filePath, removed]
      exact rest

/-! ## The file that counts -/

/-- What the file of a slot reads as. -/
def readSlot? (store : DirectoryStore) (slot : Nat) (name : String) : Option SaveFile :=
  (store.readFile? name).map fun read => { read with slot }

theorem get?_addLatest_other {latest : Slots} {entry : Nat × String} (other : entry.1 ≠ slot) :
    Slots.get? (store.addLatest latest entry) slot = Slots.get? latest slot := by
  rw [addLatest]
  split
  · rfl
  · dsimp only
    split
    · rw [Slots.get?_insert, if_neg other]
    · rfl

theorem get?_addLatest_new {latest : Slots} (free : Slots.get? latest slot = none) :
    Slots.get? (store.addLatest latest (slot, name)) slot = store.readSlot? slot name := by
  rw [addLatest, readSlot?]
  cases store.readFile? name with
  | none => exact free
  | some read => simp [free, Slots.get?_insert]

/-- A file does not come after itself. -/
theorem get?_addLatest_again {latest : Slots}
    (taken : Slots.get? latest slot = store.readSlot? slot name) :
    Slots.get? (store.addLatest latest (slot, name)) slot = store.readSlot? slot name := by
  rw [readSlot?] at taken ⊢
  rw [addLatest]
  cases read : store.readFile? name with
  | none =>
      rw [read] at taken
      exact taken
  | some file =>
      rw [read] at taken
      simp [taken]

variable {files : List (Nat × String)}

theorem get?_foldl_addLatest_again {latest : Slots}
    (alone : ∀ other, (slot, other) ∈ files → other = name)
    (taken : Slots.get? latest slot = store.readSlot? slot name) :
    Slots.get? (files.foldl store.addLatest latest) slot = store.readSlot? slot name := by
  induction files generalizing latest with
  | nil => exact taken
  | cons entry files ih =>
      refine ih (fun other member => alone other (List.mem_cons_of_mem entry member)) ?_
      by_cases same : entry.1 = slot
      · obtain ⟨held, other⟩ := entry
        subst same
        cases alone other (List.mem_cons_self ..)
        exact get?_addLatest_again taken
      · rw [get?_addLatest_other same, taken]

/-- A slot with a single file is read from this file. -/
theorem get?_foldl_addLatest {latest : Slots}
    (alone : ∀ other, (slot, other) ∈ files → other = name) (member : (slot, name) ∈ files)
    (free : Slots.get? latest slot = none) :
    Slots.get? (files.foldl store.addLatest latest) slot = store.readSlot? slot name := by
  induction files generalizing latest with
  | nil => cases member
  | cons entry files ih =>
      have others : ∀ other, (slot, other) ∈ files → other = name :=
        fun other member => alone other (List.mem_cons_of_mem entry member)
      by_cases same : entry = (slot, name)
      · subst same
        rw [List.foldl_cons]
        exact get?_foldl_addLatest_again others (get?_addLatest_new free)
      · have further : entry.1 ≠ slot := by
          rintro rfl
          exact same (Prod.ext rfl (alone entry.2 (List.mem_cons_self ..)))
        refine ih others ((List.mem_cons.1 member).resolve_left (Ne.symm same)) ?_
        rw [get?_addLatest_other further, free]

theorem read_of_lists (lists : store.disk.Lists store.path location entries)
    (alone : ∀ other, (slot, other) ∈ slotEntries entries → other = name)
    (member : (slot, name) ∈ slotEntries entries) :
    store.read slot = (store.readSlot? slot name).elim (.error (SaveError.slotNotFound slot)) .ok := by
  rw [read, latest, slotFiles_of_lists lists]
  simp only [bind, Except.bind, Except.map]
  rw [get?_foldl_addLatest (fun other => by simpa using alone other) (by simpa using member) rfl]
  cases store.readSlot? slot name <;> rfl

/-- In a directory without a path all slots are empty. -/
theorem read_of_path_eq (nowhere : store.path = "") (slot : Nat) :
    store.read slot = .error (.slotNotFound slot) := by
  rw [read, latest, slotFiles_of_path_eq nowhere]
  rfl

/-- The text of a file in the directory decides what it reads as. -/
theorem readFile?_of_lists (lists : store.disk.Lists store.path location entries)
    (plain : IsPlain name) {place : List String}
    (located : store.disk.locate (join store.path name) = .ok place) {text : String}
    (stored : Dict.get? entries name = some (.file (some text))) :
    store.readFile? name = (Json.read? text).bind SaveFile.ofJson? := by
  have content : store.disk.readText (join store.path name) = .ok text := by
    cases lists.eq_of_locate plain located
    rw [Disk.readText, Disk.node_of_located located, lists.find?_entry, stored]
    rfl
  rw [readFile?, filePath, content]
  rfl

/-! ## A file that is written -/

/-- A directory after a file was put into its slot. -/
def filled (file : SaveFile) (entries : Dict DiskNode) : Dict DiskNode :=
  (Dict.insert file.fileName (.file (some file.toJson.indented)) entries).filter fun entry =>
    memberSlot? entry.1 entry.2 ≠ some file.slot || entry.1 = file.fileName

theorem finite_of_write (wrote : store.write file = .ok changed) : file.game.nonFinite? = none := by
  cases found : file.game.nonFinite? with
  | none => rfl
  | some path =>
      rw [write, SaveFile.ensureFinite, found] at wrote
      cases wrote

/-- A write makes the directory, writes the file and removes the other files of its slot. -/
theorem write_eq_ok_iff (finite : file.game.nonFinite? = none) :
    store.write file = .ok changed ↔
      ∃ prepared, store.disk.makeDirectories store.path = .ok prepared ∧
        ∃ written, prepared.writeText (join store.path file.fileName) file.toJson.indented =
            .ok written ∧
          ∃ stale, (DirectoryStore.mk written store.path).staleFiles file.slot
              (some file.fileName) = .ok stale ∧
            (DirectoryStore.mk written store.path).removeFiles stale = .ok changed := by
  have steps : store.write file = (do
      let prepared ← (store.disk.makeDirectories store.path).mapError (.disk store.path)
      let written ← (prepared.writeText (join store.path file.fileName)
        file.toJson.indented).mapError (.disk (join store.path file.fileName))
      let stale ← (DirectoryStore.mk written store.path).staleFiles file.slot (some file.fileName)
      (DirectoryStore.mk written store.path).removeFiles stale) := by
    simp only [write, SaveFile.ensureFinite, finite, filePath, bind, Except.bind]
  simp only [steps, bind_eq_ok_iff, mapError_eq_ok_iff]

/-- A directory after a file was put into its slot. -/
theorem lists_of_write {prepared : Disk}
    (made : store.disk.makeDirectories store.path = .ok prepared)
    (lists : prepared.Lists store.path location entries)
    (tidy : (DiskNode.directory entries).Tidy) (plain : IsPlain file.fileName)
    (wrote : store.write file = .ok changed) :
    prepared.Keeps changed.disk ∧
      changed.disk.Lists store.path location (filled file entries) := by
  obtain ⟨between, same, written, put, names, chosen, removed⟩ :=
    (write_eq_ok_iff (finite_of_write wrote)).1 wrote
  cases made.symm.trans same
  obtain ⟨held, keeps⟩ := lists.writeText_join plain put
  obtain ⟨others, selected, -, stale⟩ :=
    staleFiles_of_lists ⟨written, store.path⟩ held file.slot (some file.fileName)
  cases chosen.symm.trans selected
  have filling := tidy.insert plain (.file (some file.toJson.indented))
  have named : ∀ name ∈ names, IsPlain name := by
    intro name member
    obtain ⟨node, inside, -⟩ := mem_slotEntries.1 ((stale name).1 member).1
    exact filling.named inside
  obtain ⟨further, left⟩ := lists_of_removeFiles held named removed
  have kept : (Dict.insert file.fileName (.file (some file.toJson.indented)) entries).filter
      (fun entry => entry.1 ∉ names) = filled file entries := by
    refine List.filter_congr fun entry member => ?_
    rw [Bool.eq_iff_iff, decide_eq_true_eq, stale, mem_slotEntries_iff filling.sorted member]
    simp only [not_and_or, Bool.or_eq_true, decide_eq_true_eq, ne_eq, not_not, Option.some.injEq]
    exact or_congr_right eq_comm
  exact ⟨keeps.trans further, kept ▸ left⟩

/-- A file is put into its slot when the directory is there and holds only files. -/
theorem write_ok {prepared : Disk} (made : store.disk.makeDirectories store.path = .ok prepared)
    (lists : prepared.Lists store.path location entries) (sorted : Dict.Sorted entries)
    (files : ∀ entry ∈ entries, Fits store.path entry.1 ∧ ∃ content, entry.2 = .file content)
    (fits : Fits store.path file.fileName) (finite : file.game.nonFinite? = none) :
    ∃ changed, store.write file = .ok changed := by
  have free : ∀ held, Dict.get? entries file.fileName ≠ some (.directory held) := by
    intro held taken
    obtain ⟨-, content, same⟩ := files _ (Dict.mem_of_get? taken)
    cases same
  obtain ⟨written, put⟩ :=
    lists.writeText_ok fits free file.toJson.indented
  obtain ⟨left, -⟩ := lists.writeText_join fits.plain put
  obtain ⟨stale, chosen, distinct, only⟩ := staleFiles_of_lists ⟨written, store.path⟩
    left file.slot (some file.fileName)
  have every : ∀ entry ∈ Dict.insert file.fileName (.file (some file.toJson.indented)) entries,
      Fits store.path entry.1 ∧ ∃ content, entry.2 = .file content := by
    intro entry member
    rcases Dict.mem_insert member with rfl | member
    · exact ⟨fits, _, rfl⟩
    · exact files entry member
  have sorted_left := sorted.insert file.fileName (.file (some file.toJson.indented))
  have held : ∀ name ∈ stale, Fits store.path name ∧ ∃ content,
      Dict.get? (Dict.insert file.fileName (.file (some file.toJson.indented)) entries) name =
        some (.file content) := by
    intro name member
    obtain ⟨node, inside, -⟩ := mem_slotEntries.1 ((only name).1 member).1
    obtain ⟨fits, content, rfl⟩ := every _ inside
    exact ⟨fits, content, sorted_left.get?_of_mem inside⟩
  obtain ⟨changed, removed⟩ := removeFiles_ok ⟨written, store.path⟩ left
    (distinct sorted_left) (fun name member => (held name member).1)
    fun name member => (held name member).2
  exact ⟨changed, (write_eq_ok_iff finite).2 ⟨prepared, made, written, put, stale, chosen, removed⟩⟩

/-- In a directory where a file was put into its slot, it is the only one of the slot. -/
theorem eq_of_mem_filled {other : String}
    (member : (file.slot, other) ∈ slotEntries (filled file entries)) : other = file.fileName := by
  obtain ⟨node, inside, selected⟩ := mem_slotEntries.1 member
  have kept := (List.mem_filter.1 inside).2
  simpa [selected] using kept

theorem fileName_mem_filled (file : SaveFile) (sorted : Dict.Sorted entries) :
    (file.fileName, .file (some file.toJson.indented)) ∈ filled file entries :=
  List.mem_filter.2 ⟨sorted.mem_insert_iff.2 (.inl rfl), by simp⟩

/-- A slot is read from the file that was put into it, if the text of the file is read. -/
theorem read_filled (lists : store.disk.Lists store.path location (filled file entries))
    (sorted : Dict.Sorted entries) (plain : IsPlain file.fileName)
    (bounded : file.slot < SaveFile.slotBound) {place : List String}
    (located : store.disk.locate (join store.path file.fileName) = .ok place) :
    store.read file.slot =
      (((Json.read? file.toJson.indented).bind SaveFile.ofJson?).map fun read =>
        { read with slot := file.slot }).elim (.error (SaveError.slotNotFound file.slot)) .ok := by
  have member := fileName_mem_filled file sorted
  have selected : (file.slot, file.fileName) ∈ slotEntries (filled file entries) :=
    mem_slotEntries.2 ⟨_, member, memberSlot?_fileName bounded _⟩
  have sorted_filled : Dict.Sorted (filled file entries) := (sorted.insert _ _).filter _
  rw [read_of_lists lists (fun _ => eq_of_mem_filled) selected, readSlot?,
    readFile?_of_lists lists plain located (sorted_filled.get?_of_mem member)]

theorem path_of_removeFiles {names : List String} (removed : store.removeFiles names = .ok changed) :
    changed.path = store.path := by
  induction names generalizing store with
  | nil =>
      cases removed
      rfl
  | cons name names ih =>
      rw [removeFiles] at removed
      split at removed
      · cases removed
      · have path := ih removed
        exact path

theorem path_of_write (wrote : store.write file = .ok changed) : changed.path = store.path := by
  obtain ⟨prepared, -, written, -, stale, -, removed⟩ :=
    (write_eq_ok_iff (finite_of_write wrote)).1 wrote
  have path := path_of_removeFiles removed
  exact path

/-- A file that is written somewhere is written into the directory of its path. -/
theorem filled_of_write (tidy : store.disk.tree.Tidy) (proper : store.path ≠ "")
    (plain : IsPlain file.fileName) (wrote : store.write file = .ok changed) :
    ∃ location entries place, Dict.Sorted entries ∧
      changed.disk.Lists store.path location (filled file entries) ∧
      changed.disk.locate (join store.path file.fileName) = .ok place := by
  obtain ⟨prepared, made, written, put, -, -, -⟩ :=
    (write_eq_ok_iff (finite_of_write wrote)).1 wrote
  obtain ⟨place, located⟩ := Disk.located_of_writeText put
  obtain ⟨location, entries, lists⟩ := Disk.lists_of_locate_join plain proper located
  have kept := (Disk.makeDirectories_tidy tidy made).find? lists.found
  obtain ⟨keeps, left⟩ := lists_of_write made lists kept plain wrote
  exact ⟨location, entries, place, kept.sorted, left, keeps.locate located⟩

variable {playerName : String} {game : SaveRecord} {now : Instant}

/-- A save that is written is what its slot is read from, exactly when it is not nested too deeply and
the directory has a path. Otherwise nothing is left to be read in the slot. -/
theorem read_of_write (tidy : store.disk.tree.Tidy) (bounded : slot < SaveFile.slotBound)
    (representable : Instant.isRepresentable now = true) (proper : game.Proper)
    (exact_numbers : (SaveFile.new slot playerName game now).toJson.Exact)
    (wrote : store.write (SaveFile.new slot playerName game now) = .ok changed) :
    changed.read slot =
      if store.path ≠ "" ∧
          (SaveFile.new slot playerName game now).toJson.nesting ≤ Json.nestingLimit then
        .ok (SaveFile.new slot playerName game now).withoutStreamIds
      else .error (.slotNotFound slot) := by
  have text := SaveFile.read?_indented bounded (SaveFile.timestamp_new_lt slot playerName game
    representable) proper (finite_of_write wrote) exact_numbers
  by_cases nowhere : store.path = ""
  · rw [if_neg (fun both => both.1 nowhere)]
    exact read_of_path_eq ((path_of_write wrote).trans nowhere) slot
  · obtain ⟨location, entries, place, sorted, lists, located⟩ :=
      filled_of_write tidy nowhere (SaveFile.isPlain_fileName ⟨now, rfl⟩) wrote
    rw [← path_of_write wrote] at lists located
    have read := read_filled lists sorted (SaveFile.isPlain_fileName ⟨now, rfl⟩) bounded located
    rw [text] at read
    refine read.trans ?_
    by_cases shallow : (SaveFile.new slot playerName game now).toJson.nesting ≤ Json.nestingLimit
    · rw [if_pos shallow, if_pos ⟨nowhere, shallow⟩]
      rfl
    · rw [if_neg shallow, if_neg (fun both => shallow both.2)]
      rfl

/-- A number inside of maps. -/
def buried : Nat → Value
  | 0 => .int 1
  | depth + 1 => .map [("room", buried depth)]

theorem buried_ordered (depth : Nat) : (buried depth).Ordered := by
  induction depth with
  | zero => exact .int 1
  | succ depth ih =>
      exact .map (List.pairwise_singleton ..) (List.forall_mem_singleton.2 ih)

theorem buried_plain (depth : Nat) : (buried depth).plain = buried depth := by
  induction depth with
  | zero => rfl
  | succ depth ih => rw [buried, Value.plain, Value.plainEntries, ih, Value.plainEntries]

theorem buried_exact (depth : Nat) : (buried depth).toJson.Exact := by
  induction depth with
  | zero => exact ⟨by decide, by decide⟩
  | succ depth ih => exact ⟨ih, trivial⟩

theorem buried_nesting (depth : Nat) : (buried depth).toJson.nesting = depth := by
  induction depth with
  | zero => rfl
  | succ depth ih =>
      change max (buried depth).toJson.nesting 0 + 1 = depth + 1
      rw [ih, Nat.max_zero]

/-- A game with a number inside of maps. -/
def buriedGame (depth : Nat) : SaveRecord :=
  { SaveRecord.empty with global := [("cellar", buried depth)] }

theorem buriedGame_proper (depth : Nat) : (buriedGame depth).Proper where
  global := .map (List.pairwise_singleton ..) (List.forall_mem_singleton.2 (buried_ordered depth))
  deltas := by simp [buriedGame, SaveRecord.empty]
  visible := by simp [buriedGame, SaveRecord.empty]
  delta := by simp [buriedGame, SaveRecord.empty]
  characters := .nil
  streams := .nil

theorem buriedGame_finite (depth : Nat) : (buriedGame depth).nonFinite? = none := by
  refine (SaveRecord.plain_eq_self_iff _).1 ?_
  simp [SaveRecord.plain, buriedGame, SaveRecord.empty, Value.plainEntries, buried_plain,
    Dict.mapValues]

/-- The save of a game with a number inside of maps. -/
def buriedSave (depth : Nat) : SaveFile := SaveFile.new 1 "Mia" (buriedGame depth) 0

theorem buriedSave_exact (depth : Nat) : (buriedSave depth).toJson.Exact := by
  have zero : Json.IsWord 0 := ⟨by decide, by decide⟩
  have one : Json.IsWord 1 := ⟨by decide, by decide⟩
  have global : (Value.mapToJson (buriedGame depth).global).Exact := ⟨buried_exact depth, trivial⟩
  have game : (buriedGame depth).toJson.Exact :=
    ⟨trivial, zero, trivial, global, trivial, trivial, trivial, trivial, trivial⟩
  exact ⟨one, zero, trivial, trivial, game, trivial⟩

theorem buriedSave_nesting (depth : Nat) : (buriedSave depth).toJson.nesting = depth + 3 := by
  have global : (Value.mapToJson (buriedGame depth).global).nesting = depth + 1 := by
    change max (buried depth).toJson.nesting 0 + 1 = depth + 1
    rw [buried_nesting, Nat.max_zero]
  have game : (buriedGame depth).toJson.nesting = depth + 2 := by
    change max 0 (max 0 (max 1 (max (Value.mapToJson (buriedGame depth).global).nesting
      (max 1 (max 1 (max 0 (max 1 0))))))) + 1 = depth + 2
    rw [global]
    omega
  rw [SaveFile.nesting_toJson]
  exact congrArg (· + 1) game

/-- A disk without files, and a directory for saves on it. -/
def newStore : DirectoryStore := ⟨Disk.empty, "saves"⟩

theorem newStore_made :
    newStore.disk.makeDirectories newStore.path =
      .ok ⟨.directory [("saves", .directory [])], []⟩ := by
  cbv

theorem newStore_lists :
    Lists ⟨.directory [("saves", .directory [])], []⟩ newStore.path ["saves"] [] :=
  ⟨by cbv, rfl⟩

theorem newStore_fits (game : SaveRecord) :
    Fits newStore.path (SaveFile.new 1 "Mia" game 0).fileName := by
  change Fits newStore.path (SaveFile.new 1 "Mia" SaveRecord.empty 0).fileName
  exact ⟨SaveFile.isPlain_fileName ⟨0, rfl⟩, by decide +kernel, by decide +kernel⟩

theorem read_of_write_buried :
    (∃ changed, newStore.write (buriedSave 124) = .ok changed ∧
      changed.read 1 = .ok (buriedSave 124)) ∧
    ∃ changed, newStore.write (buriedSave 125) = .ok changed ∧
      changed.read 1 = .error (.slotNotFound 1) := by
  have empty_disk : newStore.disk.tree.Tidy := .directory .nil (by simp) (by simp)
  have wrote (depth : Nat) : ∃ changed, newStore.write (buriedSave depth) = .ok changed :=
    write_ok newStore_made newStore_lists .nil (by simp) (newStore_fits _) (buriedGame_finite depth)
  have read {depth : Nat} {changed : DirectoryStore}
      (wrote : newStore.write (buriedSave depth) = .ok changed) :=
    read_of_write empty_disk (by decide) (by decide) (buriedGame_proper depth)
      (buriedSave_exact depth) wrote
  obtain ⟨high, kept⟩ := wrote 124
  obtain ⟨deep, lost⟩ := wrote 125
  refine ⟨⟨high, kept, ?_⟩, deep, lost, ?_⟩
  · rw [read kept, if_pos ⟨by decide, (buriedSave_nesting 124).le⟩]
    rfl
  · rw [read lost, if_neg fun both => absurd ((buriedSave_nesting 125).symm.trans_le both.2) (by decide)]

end DirectoryStore

end VisualNovel
