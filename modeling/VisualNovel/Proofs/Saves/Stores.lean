import VisualNovel.Proofs.Saves.Directory

/-!
# A directory as a store

A directory that holds one file for each occupied slot answers as a store in memory does, and goes on
to hold one file for each. So a store in a directory that is empty at first cannot be told from one
in memory.
-/

namespace VisualNovel

/-! ## Requests -/

/-- What a host asks of a store. -/
inductive StoreRequest where
  | write (file : SaveFile)
  | read (slot : Nat)
  | list
  | delete (slot : Nat)

/-- What a store answers. -/
inductive StoreAnswer where
  | done
  | file (file : SaveFile)
  | files (files : List SaveFile)
  | refused (cause : SaveError)

namespace StoreAnswer

/-- The answer without the identifiers of streams. -/
def withoutStreamIds : StoreAnswer → StoreAnswer
  | done => done
  | file held => file held.withoutStreamIds
  | files held => files (held.map SaveFile.withoutStreamIds)
  | refused cause => refused cause

/-- The answer to a request that changes nothing. -/
def found {α : Type} (answer : α → StoreAnswer) : Except SaveError α → StoreAnswer
  | .ok value => answer value
  | .error cause => refused cause

end StoreAnswer

namespace StoreRequest

/-- The answer to a request that changes the store, and the store behind it. -/
def settle (store : SlotStore) : Except SaveError SlotStore → StoreAnswer × SlotStore
  | .ok changed => (.done, changed)
  | .error cause => (.refused cause, store)

/-- The answer to a request, and the store behind it. -/
def perform (store : SlotStore) : StoreRequest → StoreAnswer × SlotStore
  | write file => settle store (store.write file)
  | read slot => (.found .file (store.read slot), store)
  | list => (.found .files store.list, store)
  | delete slot => settle store (store.delete slot)

/-- The answers to requests that are made one after another, and the store behind them. -/
def performAll (store : SlotStore) : List StoreRequest → List StoreAnswer × SlotStore
  | [] => ([], store)
  | request :: requests =>
    let (answer, between) := request.perform store
    let (answers, after) := performAll between requests
    (answer :: answers, after)

end StoreRequest

/-! ## Files that a directory keeps -/

namespace SaveFile

/-- A new save that a directory can hold, and whose text is read as it was written. -/
structure Storable (path : String) (file : SaveFile) : Prop where
  new : ∃ playerName now, file = new file.slot playerName file.game now ∧
    Instant.isRepresentable now = true
  slot : file.slot < slotBound
  proper : file.game.Proper
  exact_numbers : file.toJson.Exact
  shallow : file.toJson.nesting ≤ Json.nestingLimit
  short_name : file.fileName.utf8ByteSize ≤ Disk.nameLimit
  short_path : (Disk.join path file.fileName).utf8ByteSize < Disk.pathLimit

variable {file : SaveFile} {path : String}

theorem Storable.fits (storable : file.Storable path) : Disk.Fits path file.fileName := by
  obtain ⟨playerName, now, made, -⟩ := storable.new
  exact ⟨isPlain_fileName ⟨now, congrArg SaveFile.stamp made⟩, storable.short_name,
    storable.short_path⟩

theorem Storable.read (storable : file.Storable path) (finite : file.game.nonFinite? = none) :
    (Json.read? file.toJson.indented).bind ofJson? = some file.withoutStreamIds := by
  obtain ⟨playerName, now, made, representable⟩ := storable.new
  have time : file.timestamp < 9223372036854775808 :=
    made ▸ timestamp_new_lt file.slot playerName file.game representable
  rw [read?_indented storable.slot time storable.proper finite storable.exact_numbers,
    if_pos storable.shallow]

/-- The entry of a directory for a file. -/
def entry (file : SaveFile) : String × DiskNode :=
  (file.fileName, .file (some file.toJson.indented))

theorem Storable.memberSlot?_entry (storable : file.Storable path) :
    DirectoryStore.memberSlot? file.entry.1 file.entry.2 = some file.slot :=
  DirectoryStore.memberSlot?_fileName storable.slot _

end SaveFile

namespace DirectoryStore

open Disk (Lists)

/-- The entries of a directory are the files of the slots. -/
structure Holds (path : String) (entries : Dict DiskNode) (slots : Slots) : Prop where
  ascending : slots.Ascending
  sorted : Dict.Sorted entries
  file : ∀ {slot file}, Slots.get? slots slot = some file →
    file.slot = slot ∧ file.Storable path ∧ file.game.nonFinite? = none
  mem_iff : ∀ {entry}, entry ∈ entries ↔
    ∃ slot file, Slots.get? slots slot = some file ∧ entry = file.entry

variable {store : DirectoryStore} {location : List String} {entries : Dict DiskNode}
  {slots : Slots} {slot : Nat} {name path : String} {file : SaveFile}

theorem holds_nil (path : String) : Holds path [] [] where
  ascending := .nil
  sorted := .nil
  file found := by cases found
  mem_iff := by simp [Slots.get?]

theorem Holds.mem_slotEntries (holds : Holds path entries slots) :
    (slot, name) ∈ slotEntries entries ↔
      ∃ file, Slots.get? slots slot = some file ∧ name = file.fileName := by
  rw [DirectoryStore.mem_slotEntries]
  constructor
  · rintro ⟨node, member, selected⟩
    obtain ⟨other, file, found, same⟩ := holds.mem_iff.1 member
    obtain ⟨rfl, storable, -⟩ := holds.file found
    cases same
    cases storable.memberSlot?_entry.symm.trans selected
    exact ⟨file, found, rfl⟩
  · rintro ⟨file, found, rfl⟩
    obtain ⟨rfl, storable, -⟩ := holds.file found
    exact ⟨_, holds.mem_iff.2 ⟨_, file, found, rfl⟩, storable.memberSlot?_entry⟩

theorem Holds.fits (holds : Holds path entries slots) {entry : String × DiskNode}
    (member : entry ∈ entries) :
    Disk.Fits path entry.1 ∧ ∃ content, entry.2 = .file content := by
  obtain ⟨slot, file, found, rfl⟩ := holds.mem_iff.1 member
  exact ⟨(holds.file found).2.1.fits, _, rfl⟩

theorem Holds.tidy (holds : Holds path entries slots) : (DiskNode.directory entries).Tidy := by
  refine .directory holds.sorted (fun entry member => (holds.fits member).1.plain) ?_
  intro entry member
  obtain ⟨-, content, same⟩ := holds.fits member
  rw [same]
  exact .file content

/-- A directory without the files of a slot holds the other slots. -/
theorem Holds.erase (holds : Holds path entries slots) (slot : Nat) :
    Holds path (entries.filter fun entry => memberSlot? entry.1 entry.2 ≠ some slot)
      (Slots.erase slot slots) where
  ascending := holds.ascending.erase slot
  sorted := holds.sorted.filter _
  file found := by
    rw [Slots.get?_erase] at found
    split at found
    · cases found
    · exact holds.file found
  mem_iff := by
    intro entry
    simp only [List.mem_filter, holds.mem_iff, Slots.get?_erase, decide_eq_true_eq]
    constructor
    · rintro ⟨⟨other, file, found, rfl⟩, kept⟩
      obtain ⟨rfl, storable, -⟩ := holds.file found
      rw [storable.memberSlot?_entry] at kept
      exact ⟨_, file, by rw [if_neg fun same => kept (congrArg some same.symm), found], rfl⟩
    · rintro ⟨other, file, found, rfl⟩
      split at found
      · cases found
      · rename_i different
        obtain ⟨rfl, storable, -⟩ := holds.file found
        refine ⟨⟨_, file, found, rfl⟩, ?_⟩
        rw [storable.memberSlot?_entry]
        exact fun same => different (Option.some.inj same).symm

/-- A directory where a file was put into its slot holds the file in the slot. -/
theorem Holds.fill (holds : Holds path entries slots) (storable : file.Storable path)
    (finite : file.game.nonFinite? = none) :
    Holds path (filled file entries) (Slots.insert file.slot file slots) where
  ascending := holds.ascending.insert file.slot file
  sorted := (holds.sorted.insert _ _).filter _
  file found := by
    rw [Slots.get?_insert] at found
    split at found
    · cases found
      exact ⟨‹_›, storable, finite⟩
    · exact holds.file found
  mem_iff := by
    intro entry
    simp only [filled, List.mem_filter, holds.sorted.mem_insert_iff, Slots.get?_insert,
      Bool.or_eq_true, decide_eq_true_eq]
    constructor
    · rintro ⟨rfl | ⟨member, other⟩, kept⟩
      · exact ⟨file.slot, file, if_pos rfl, rfl⟩
      · obtain ⟨slot, held, found, rfl⟩ := holds.mem_iff.1 member
        obtain ⟨rfl, held_storable, -⟩ := holds.file found
        have different := kept.resolve_right other
        rw [held_storable.memberSlot?_entry] at different
        exact ⟨_, held, by rw [if_neg fun same => different (congrArg some same.symm), found], rfl⟩
    · rintro ⟨slot, held, found, rfl⟩
      split at found
      · cases found
        exact ⟨.inl rfl, .inr rfl⟩
      · rename_i different
        obtain ⟨rfl, held_storable, -⟩ := holds.file found
        have elsewhere : memberSlot? held.entry.1 held.entry.2 ≠ some file.slot := by
          rw [held_storable.memberSlot?_entry]
          exact fun same => different (Option.some.inj same).symm
        refine ⟨.inr ⟨holds.mem_iff.2 ⟨_, held, found, rfl⟩, fun same => elsewhere ?_⟩, .inl elsewhere⟩
        -- Files of one name are in one slot.
        rw [same]
        exact memberSlot?_fileName storable.slot _

/-! ## What is read -/

theorem Holds.readSlot? (holds : Holds store.path entries slots)
    (lists : store.disk.Lists store.path location entries)
    (found : Slots.get? slots slot = some file) :
    store.readSlot? slot file.fileName = some file.withoutStreamIds := by
  obtain ⟨rfl, storable, finite⟩ := holds.file found
  have stored := holds.sorted.get?_of_mem (holds.mem_iff.2 ⟨_, file, found, rfl⟩)
  rw [DirectoryStore.readSlot?,
    readFile?_of_lists lists storable.fits.plain (lists.locate_join storable.fits) stored,
    storable.read finite]
  rfl

theorem get?_foldl_addLatest_none {files : List (Nat × String)} {latest : Slots}
    (absent : ∀ name, (slot, name) ∉ files) :
    Slots.get? (files.foldl store.addLatest latest) slot = Slots.get? latest slot := by
  induction files generalizing latest with
  | nil => rfl
  | cons entry files ih =>
      have other : entry.1 ≠ slot := by
        rintro rfl
        exact absent entry.2 (List.mem_cons_self ..)
      rw [List.foldl_cons, ih fun name member => absent name (List.mem_cons_of_mem _ member),
        get?_addLatest_other other]

theorem ascending_foldl_addLatest {files : List (Nat × String)} {latest : Slots}
    (ascending : latest.Ascending) : (files.foldl store.addLatest latest).Ascending := by
  induction files generalizing latest with
  | nil => exact ascending
  | cons entry files ih =>
      refine ih ?_
      rw [addLatest]
      split
      · exact ascending
      · dsimp only
        split
        · exact ascending.insert _ _
        · exact ascending

/-- What counts in a directory that holds the slots are the files of the slots. -/
theorem Holds.latest_eq (holds : Holds store.path entries slots)
    (lists : store.disk.Lists store.path location entries) :
    store.latest = .ok (slots.map fun held => (held.1, held.2.withoutStreamIds)) := by
  rw [latest, slotFiles_of_lists lists]
  refine congrArg Except.ok ((ascending_foldl_addLatest .nil).ext (holds.ascending.map _) ?_)
  intro slot
  rw [Slots.get?_map]
  cases found : Slots.get? slots slot with
  | none =>
      refine get?_foldl_addLatest_none fun name member => ?_
      obtain ⟨file, present, -⟩ := holds.mem_slotEntries.1 (List.mem_mergeSort.1 member)
      cases found.symm.trans present
  | some file =>
      refine (get?_foldl_addLatest ?_ ?_ rfl).trans (holds.readSlot? lists found)
      · intro other member
        obtain ⟨held, present, rfl⟩ := holds.mem_slotEntries.1 (List.mem_mergeSort.1 member)
        cases found.symm.trans present
        rfl
      · exact List.mem_mergeSort.2 (holds.mem_slotEntries.2 ⟨file, found, rfl⟩)

/-! ## What is changed -/

/-- An empty slot cannot be emptied. -/
theorem Holds.delete_none (holds : Holds store.path entries slots)
    (lists : store.disk.Lists store.path location entries)
    (free : Slots.get? slots slot = none) :
    store.delete slot = .error (.slotNotFound slot) := by
  obtain ⟨names, chosen, -, stale⟩ := staleFiles_of_lists store lists slot none
  have nothing : names = [] := by
    refine List.eq_nil_iff_forall_not_mem.2 fun name member => ?_
    obtain ⟨file, found, -⟩ := holds.mem_slotEntries.1 ((stale name).1 member).1
    cases free.symm.trans found
  rw [delete, chosen, nothing]
  rfl

/-- A slot is emptied by the removal of its file. -/
theorem Holds.delete_some (holds : Holds store.path entries slots)
    (lists : store.disk.Lists store.path location entries)
    (found : Slots.get? slots slot = some file) :
    ∃ changed, store.delete slot = .ok changed ∧
      changed.disk.Lists store.path location
        (entries.filter fun entry => memberSlot? entry.1 entry.2 ≠ some slot) := by
  obtain ⟨names, chosen, distinct, stale⟩ := staleFiles_of_lists store lists slot none
  have some_file : names.isEmpty = false := by
    rw [List.isEmpty_eq_false_iff_exists_mem]
    exact ⟨file.fileName, (stale _).2 ⟨holds.mem_slotEntries.2 ⟨file, found, rfl⟩, nofun⟩⟩
  have held : ∀ name ∈ names, Disk.Fits store.path name ∧ ∃ content,
      Dict.get? entries name = some (.file content) := by
    intro name member
    obtain ⟨node, inside, -⟩ := DirectoryStore.mem_slotEntries.1 ((stale name).1 member).1
    obtain ⟨fits, content, same⟩ := holds.fits inside
    exact ⟨fits, content, same ▸ holds.sorted.get?_of_mem inside⟩
  obtain ⟨changed, removed⟩ := removeFiles_ok store lists (distinct holds.sorted)
    (fun name member => (held name member).1) fun name member => (held name member).2
  obtain ⟨-, left⟩ := lists_of_removeFiles lists (fun name member => (held name member).1.plain)
    removed
  refine ⟨changed, ?_, ?_⟩
  · rw [delete, chosen]
    change (if names.isEmpty then _ else store.removeFiles names) = _
    rw [some_file]
    exact removed
  · have kept : entries.filter (fun entry => entry.1 ∉ names) =
        entries.filter fun entry => memberSlot? entry.1 entry.2 ≠ some slot := by
      refine List.filter_congr fun entry member => ?_
      rw [decide_eq_decide, stale, mem_slotEntries_iff holds.sorted member]
      simp
    exact kept ▸ left

/-! ## A directory in the place of a memory -/

/-- The directory is empty, or it is missing and empty once it is made. -/
inductive Vacant (store : DirectoryStore) : Prop where
  | empty {location : List String} (lists : store.disk.Lists store.path location [])
  | missing {prepared : Disk} {location : List String}
      (absent : store.disk.entries store.path = .error .notFound)
      (made : store.disk.makeDirectories store.path = .ok prepared)
      (lists : prepared.Lists store.path location [])

/-- The directory holds the files of the slots; it may be missing while there are none. -/
inductive Represents (store : DirectoryStore) : Slots → Prop where
  | missing {prepared : Disk} {location : List String}
      (absent : store.disk.entries store.path = .error .notFound)
      (made : store.disk.makeDirectories store.path = .ok prepared)
      (lists : prepared.Lists store.path location []) : Represents store []
  | directory {location : List String} {entries : Dict DiskNode} {slots : Slots}
      (lists : store.disk.Lists store.path location entries)
      (holds : Holds store.path entries slots) : Represents store slots

theorem Vacant.represents (vacant : store.Vacant) : store.Represents [] := by
  cases vacant with
  | empty lists => exact .directory lists (holds_nil store.path)
  | missing absent made lists => exact .missing absent made lists

theorem slotFiles_of_missing (absent : store.disk.entries store.path = .error .notFound) :
    store.slotFiles = .ok [] := by
  rw [slotFiles, absent]

theorem Represents.latest_eq (represents : store.Represents slots) :
    store.latest = .ok (slots.map fun held => (held.1, held.2.withoutStreamIds)) := by
  cases represents with
  | missing absent made lists =>
      rw [latest, slotFiles_of_missing absent]
      rfl
  | directory lists holds => exact holds.latest_eq lists

theorem Represents.read_eq (represents : store.Represents slots) (slot : Nat) :
    store.read slot =
      ((MemoryStore.mk slots).read slot).map SaveFile.withoutStreamIds := by
  rw [read, represents.latest_eq, MemoryStore.read]
  simp only [bind, Except.bind, Slots.get?_map]
  cases Slots.get? slots slot <;> rfl

theorem Represents.list_eq (represents : store.Represents slots) :
    store.list = .ok ((MemoryStore.mk slots).list.map SaveFile.withoutStreamIds) := by
  rw [list, represents.latest_eq, MemoryStore.list]
  simp [Except.map, Function.comp_def]

/-- A file is put into its slot. -/
theorem Represents.write_ok (represents : store.Represents slots)
    (storable : file.Storable store.path) (finite : file.game.nonFinite? = none) :
    ∃ changed, store.write file = .ok changed ∧
      changed.Represents (Slots.insert file.slot file slots) := by
  have filled {prepared : Disk} {location : List String} {entries : Dict DiskNode}
      (made : store.disk.makeDirectories store.path = .ok prepared)
      (lists : prepared.Lists store.path location entries)
      (holds : Holds store.path entries slots) :
      ∃ changed, store.write file = .ok changed ∧
        changed.Represents (Slots.insert file.slot file slots) := by
    obtain ⟨changed, wrote⟩ := DirectoryStore.write_ok made lists holds.sorted
      (fun _ member => holds.fits member) storable.fits finite
    obtain ⟨-, left⟩ := lists_of_write made lists holds.tidy storable.fits.plain wrote
    have path := path_of_write wrote
    exact ⟨changed, wrote, .directory (path ▸ left) (path ▸ holds.fill storable finite)⟩
  cases represents with
  | missing absent made lists => exact filled made lists (holds_nil store.path)
  | directory lists holds => exact filled lists.makeDirectories_eq lists holds

theorem Represents.delete_none (represents : store.Represents slots)
    (free : Slots.get? slots slot = none) : store.delete slot = .error (.slotNotFound slot) := by
  cases represents with
  | missing absent made lists =>
      rw [delete, staleFiles, slotFiles_of_missing absent]
      rfl
  | directory lists holds => exact holds.delete_none lists free

theorem path_of_delete {changed : DirectoryStore} (deleted : store.delete slot = .ok changed) :
    changed.path = store.path := by
  obtain ⟨stale, -, removed⟩ := bind_eq_ok_iff.1 deleted
  split at removed
  · cases removed
  · exact path_of_removeFiles removed

theorem Represents.delete_some (represents : store.Represents slots)
    (found : Slots.get? slots slot = some file) :
    ∃ changed, store.delete slot = .ok changed ∧ changed.Represents (Slots.erase slot slots) := by
  cases represents with
  | missing absent made lists => cases found
  | directory lists holds =>
      obtain ⟨changed, deleted, left⟩ := holds.delete_some lists found
      have path := path_of_delete deleted
      exact ⟨changed, deleted, .directory (path ▸ left) (path ▸ holds.erase slot)⟩

/-- Each slot with a file has one file in the directory, and nothing else is in the directory. A
missing directory has no entries. -/
def OneFileEach (store : DirectoryStore) (slots : Slots) : Prop :=
  ∃ entries, (store.disk.entries store.path = .ok entries ∨
      store.disk.entries store.path = .error .notFound ∧ entries = []) ∧
    (∀ entry ∈ entries, (memberSlot? entry.1 entry.2).isSome = true) ∧
    ∀ slot, (slotEntries entries).countP (fun entry => entry.1 = slot) =
      if (Slots.get? slots slot).isSome then 1 else 0

theorem Holds.countP (holds : Holds path entries slots) (slot : Nat) :
    (slotEntries entries).countP (fun entry => entry.1 = slot) =
      if (Slots.get? slots slot).isSome then 1 else 0 := by
  have distinct : (slotEntries entries).Nodup :=
    (names_slotEntries_nodup holds.sorted).of_map Prod.snd
  rw [List.countP_eq_length_filter]
  cases found : Slots.get? slots slot with
  | none =>
      have nothing : (slotEntries entries).filter (fun entry => entry.1 = slot) = [] := by
        refine List.filter_eq_nil_iff.2 fun entry member same => ?_
        obtain ⟨file, present, -⟩ := holds.mem_slotEntries.1 member
        rw [of_decide_eq_true same, found] at present
        cases present
      rw [nothing]
      rfl
  | some file =>
      have alone : ((slotEntries entries).filter fun entry => entry.1 = slot).Perm
          [(slot, file.fileName)] := by
        refine (List.perm_ext_iff_of_nodup (distinct.filter _) (List.nodup_singleton _)).2 ?_
        rintro ⟨other, name⟩
        rw [List.mem_filter, List.mem_singleton, holds.mem_slotEntries, decide_eq_true_eq]
        constructor
        · rintro ⟨⟨held, present, rfl⟩, rfl⟩
          cases found.symm.trans present
          rfl
        · rintro same
          cases same
          exact ⟨⟨file, found, rfl⟩, rfl⟩
      rw [alone.length_eq]
      rfl

theorem Represents.oneFileEach (represents : store.Represents slots) : store.OneFileEach slots := by
  cases represents with
  | missing absent made lists =>
      exact ⟨[], .inr ⟨absent, rfl⟩, by simp, fun slot => rfl⟩
  | directory lists holds =>
      refine ⟨_, .inl lists.entries_eq, fun entry member => ?_, holds.countP⟩
      obtain ⟨slot, file, found, rfl⟩ := holds.mem_iff.1 member
      rw [(holds.file found).2.1.memberSlot?_entry]
      rfl

end DirectoryStore

/-! ## Runs -/

namespace StoreRequest

variable {store : DirectoryStore} {slots : Slots}

/-- A directory that holds the files of the slots answers a request as the memory with these slots
does, and holds the files of its slots again. -/
theorem perform_alike (represents : store.Represents slots) (request : StoreRequest)
    (storable : ∀ file, request = .write file → file.Storable store.path) :
    ∃ answer kept after,
      request.perform (.directory store) = (answer.withoutStreamIds, .directory kept) ∧
      request.perform (.memory ⟨slots⟩) = (answer, .memory ⟨after⟩) ∧
      kept.path = store.path ∧ kept.Represents after := by
  cases request with
  | write file =>
      cases finite : file.game.nonFinite? with
      | none =>
          obtain ⟨changed, wrote, left⟩ := represents.write_ok (storable file rfl) finite
          refine ⟨.done, changed, _, ?_, ?_, DirectoryStore.path_of_write wrote, left⟩
          · rw [perform, SlotStore.write, wrote]
            rfl
          · simp only [perform, SlotStore.write, MemoryStore.write, SaveFile.ensureFinite, finite]
            rfl
      | some path =>
          refine ⟨.refused (.nonSerializable ("gameState." ++ path)), store, slots, ?_, ?_, rfl,
            represents⟩
          · simp only [perform, SlotStore.write, DirectoryStore.write, SaveFile.ensureFinite, finite]
            rfl
          · simp only [perform, SlotStore.write, MemoryStore.write, SaveFile.ensureFinite, finite]
            rfl
  | read slot =>
      refine ⟨_, store, slots, ?_, rfl, rfl, represents⟩
      simp only [perform, SlotStore.read, represents.read_eq]
      cases (MemoryStore.mk slots).read slot <;> rfl
  | list =>
      refine ⟨_, store, slots, ?_, rfl, rfl, represents⟩
      simp only [perform, SlotStore.list, represents.list_eq]
      rfl
  | delete slot =>
      cases found : Slots.get? slots slot with
      | none =>
          refine ⟨.refused (.slotNotFound slot), store, slots, ?_, ?_, rfl, represents⟩
          · rw [perform, SlotStore.delete, represents.delete_none found]
            rfl
          · rw [perform, SlotStore.delete, MemoryStore.delete, MemoryStore.read, found]
            rfl
      | some file =>
          obtain ⟨changed, deleted, left⟩ := represents.delete_some found
          refine ⟨.done, changed, _, ?_, ?_, DirectoryStore.path_of_delete deleted, left⟩
          · rw [perform, SlotStore.delete, deleted]
            rfl
          · rw [perform, SlotStore.delete, MemoryStore.delete, MemoryStore.read, found]
            rfl

theorem performAll_represents (represents : store.Represents slots) (requests : List StoreRequest)
    (storable : ∀ file, write file ∈ requests → file.Storable store.path) :
    ∃ answers kept after,
      performAll (.directory store) requests =
        (answers.map StoreAnswer.withoutStreamIds, .directory kept) ∧
      performAll (.memory ⟨slots⟩) requests = (answers, .memory ⟨after⟩) ∧
      kept.Represents after := by
  induction requests generalizing store slots with
  | nil => exact ⟨[], store, slots, rfl, rfl, represents⟩
  | cons request requests ih =>
      obtain ⟨answer, between, middle, first, memory, path, left⟩ := perform_alike represents request
        fun file same => storable file (same ▸ List.mem_cons_self ..)
      obtain ⟨answers, kept, after, rest, others, still⟩ := ih left fun file member =>
        path ▸ storable file (List.mem_cons_of_mem request member)
      refine ⟨answer :: answers, kept, after, ?_, ?_, still⟩
      · simp only [performAll, first, rest, List.map_cons]
      · simp only [performAll, memory, others]

/-- A store in a directory that is empty at first answers all requests as a store in memory does, but
for the identifiers of streams. Behind them it has one file for each slot in which the other has one,
and nothing else. -/
theorem performAll_alike (vacant : store.Vacant) (requests : List StoreRequest)
    (storable : ∀ file, write file ∈ requests → file.Storable store.path) :
    (performAll (.directory store) requests).1 =
        (performAll (.memory .empty) requests).1.map StoreAnswer.withoutStreamIds ∧
      ∃ kept memory, (performAll (.directory store) requests).2 = .directory kept ∧
        (performAll (.memory .empty) requests).2 = .memory memory ∧
        kept.OneFileEach memory.slots := by
  obtain ⟨answers, kept, after, directory, memory, represents⟩ :=
    performAll_represents vacant.represents requests storable
  rw [directory, MemoryStore.empty, memory]
  exact ⟨rfl, kept, ⟨after⟩, rfl, rfl, represents.oneFileEach⟩

/-- A game in the rain. -/
def rainyGame : SaveRecord :=
  { SaveRecord.empty with audio := [("rain", ⟨"rain", .music, "rain.ogg", true⟩)] }

theorem rainyGame_proper : rainyGame.Proper where
  global := .map .nil (by simp [rainyGame, SaveRecord.empty])
  deltas := by simp [rainyGame, SaveRecord.empty]
  visible := by simp [rainyGame, SaveRecord.empty]
  delta := by simp [rainyGame, SaveRecord.empty]
  characters := .nil
  streams := List.pairwise_singleton ..

/-- The game of a player in the rain, saved at a time. -/
def rainySave (playerName : String) (now : Instant) : SaveFile :=
  SaveFile.new 1 playerName rainyGame now

theorem rainySave_storable {playerName : String} {now : Instant}
    (representable : Instant.isRepresentable now = true)
    (word : Json.IsWord now.milliseconds)
    (short_name : (rainySave playerName now).fileName.utf8ByteSize ≤ Disk.nameLimit)
    (short_path :
      (Disk.join "saves" (rainySave playerName now).fileName).utf8ByteSize < Disk.pathLimit) :
    (rainySave playerName now).Storable "saves" where
  new := ⟨playerName, now, rfl, representable⟩
  slot := (by decide : 1 < SaveFile.slotBound)
  proper := rainyGame_proper
  exact_numbers := by
    have zero : Json.IsWord 0 := ⟨by decide, by decide⟩
    have one : Json.IsWord 1 := ⟨by decide, by decide⟩
    have stream : (Json.object (Dict.mapValues AudioStream.toJson rainyGame.audio)).Exact :=
      ⟨⟨trivial, trivial, trivial, trivial⟩, trivial⟩
    have game : rainyGame.toJson.Exact :=
      ⟨trivial, zero, trivial, trivial, trivial, trivial, trivial, stream, trivial⟩
    exact ⟨one, word, trivial, trivial, game, trivial⟩
  shallow := by
    rw [SaveFile.nesting_toJson]
    exact (by decide : rainyGame.toJson.nesting + 1 ≤ Json.nestingLimit)
  short_name := short_name
  short_path := short_path

theorem newStore_vacant : DirectoryStore.newStore.Vacant :=
  .missing (by cbv) DirectoryStore.newStore_made DirectoryStore.newStore_lists

theorem performAll_alike_rainy :
    (performAll (.directory DirectoryStore.newStore)
      [.write (rainySave "Mia" 0), .write (rainySave "Ann" (-1000000000)), .read 1, .delete 1,
        .read 1]).1 =
      [.done, .done, .file (rainySave "Ann" (-1000000000)).withoutStreamIds, .done,
        .refused (.slotNotFound 1)] := by
  have storable : ∀ file, write file ∈ [write (rainySave "Mia" 0),
      write (rainySave "Ann" (-1000000000)), read 1, delete 1, read 1] →
      file.Storable DirectoryStore.newStore.path := by
    intro file member
    simp only [List.mem_cons, write.injEq, List.not_mem_nil, or_false, reduceCtorEq] at member
    rcases member with rfl | rfl
    · exact rainySave_storable (by decide) ⟨by decide, by decide⟩ (by decide +kernel)
        (by decide +kernel)
    · exact rainySave_storable (by decide) ⟨by decide, by decide⟩ (by decide +kernel)
        (by decide +kernel)
  rw [(performAll_alike newStore_vacant _ storable).1]
  rfl

end StoreRequest

end VisualNovel
