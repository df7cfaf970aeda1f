import VisualNovel.Content.Directory
import VisualNovel.Proofs.Disk.Relative

/-!
# Content stays in its directory

Identifiers come from authored texts and from saved games, so they may hold anything. Loading is told
apart from the disk here: an inquiry is a program that asks a disk about paths and goes on with the
answers. The inquiries of the loaders ask about paths inward of the directory alone, and about none
at all when the identifier would lead out of it.
-/

namespace VisualNovel

/-- A program that asks a disk about paths. -/
inductive Inquiry (α : Type) where
  /-- Ends with a result. -/
  | done (result : α)
  /-- Opens the file at a path and reads it. -/
  | read (path : String) (next : Except DiskError String → Inquiry α)
  /-- Tests whether a file stands at a path. -/
  | test (path : String) (next : Bool → Inquiry α)

namespace Inquiry

variable {α β : Type}

/-- The result on a disk. -/
def run (disk : Disk) : Inquiry α → α
  | done result => result
  | read path next => (next (disk.readText path)).run disk
  | test path next => (next (disk.isFile path)).run disk

/-- The paths that are opened or tested on a disk, in order. -/
def asked (disk : Disk) : Inquiry α → List String
  | done _ => []
  | read path next => path :: (next (disk.readText path)).asked disk
  | test path next => path :: (next (disk.isFile path)).asked disk

/-- Goes on with the result unless it is an error. -/
def andThen (inquiry : Inquiry (Except ContentError α))
    (next : α → Inquiry (Except ContentError β)) : Inquiry (Except ContentError β) :=
  match inquiry with
  | done (.error cause) => done (.error cause)
  | done (.ok result) => next result
  | read path later => read path fun answer => (later answer).andThen next
  | test path later => test path fun answer => (later answer).andThen next

variable {disk other : Disk} {path : String}

theorem run_andThen (inquiry : Inquiry (Except ContentError α))
    (next : α → Inquiry (Except ContentError β)) :
    (inquiry.andThen next).run disk =
      inquiry.run disk >>= fun result => (next result).run disk := by
  induction inquiry with
  | done result => cases result <;> rfl
  | read path later ih => exact ih (disk.readText path)
  | test path later ih => exact ih (disk.isFile path)

theorem mem_asked_andThen {inquiry : Inquiry (Except ContentError α)}
    {next : α → Inquiry (Except ContentError β)} (asks : path ∈ (inquiry.andThen next).asked disk) :
    path ∈ inquiry.asked disk ∨ ∃ result, path ∈ (next result).asked disk := by
  induction inquiry with
  | done result =>
      cases result with
      | error cause => cases asks
      | ok result => exact .inr ⟨result, asks⟩
  | read first later ih =>
      rcases List.mem_cons.1 asks with same | asks
      · exact .inl (same ▸ List.mem_cons_self ..)
      · exact (ih _ asks).imp_left (List.mem_cons_of_mem first)
  | test first later ih =>
      rcases List.mem_cons.1 asks with same | asks
      · exact .inl (same ▸ List.mem_cons_self ..)
      · exact (ih _ asks).imp_left (List.mem_cons_of_mem first)

/-- The result depends on what the disk answers to the questions, and on nothing else. -/
theorem run_congr {inquiry : Inquiry α}
    (alike : ∀ path ∈ inquiry.asked disk,
      disk.readText path = other.readText path ∧ disk.isFile path = other.isFile path) :
    inquiry.run disk = inquiry.run other := by
  induction inquiry with
  | done result => rfl
  | read path next ih =>
      have first := alike path (List.mem_cons_self ..)
      simp only [run]
      rw [← first.1]
      exact ih _ fun later asks => alike later (List.mem_cons_of_mem path asks)
  | test path next ih =>
      have first := alike path (List.mem_cons_self ..)
      simp only [run]
      rw [← first.2]
      exact ih _ fun later asks => alike later (List.mem_cons_of_mem path asks)

/-! ## The loaders as inquiries -/

/-- Reads a document when its file is there. -/
def document? (kind : ContentKind) (id path : String) (decode : Json → Option α) :
    Inquiry (Except ContentError (Option α)) :=
  read path fun
    | .error .notFound => done (.ok none)
    | .error cause => done (.error (.unreadable path cause))
    | .ok content =>
      match (Json.read? content).bind decode with
      | some value => done (.ok (some value))
      | none => done (.error (.malformed kind id))

/-- Reads a document whose file has to be there. -/
def document (kind : ContentKind) (id path : String) (decode : Json → Option α) :
    Inquiry (Except ContentError α) :=
  (document? kind id path decode).andThen fun
    | some value => done (.ok value)
    | none => done (.error (.notFound kind id))

/-- Checks the path of an entry, which asks the disk nothing. -/
def entry (root : String) (kind : ContentKind) (id place name : String)
    (next : String → Inquiry (Except ContentError α)) : Inquiry (Except ContentError α) :=
  (done (ContentDirectory.entryPath ⟨.empty, root⟩ kind id place name)).andThen next

/-- Loads a story unit. -/
def storyUnit (root id : String) : Inquiry (Except ContentError StoryUnit) :=
  entry root .storyUnit id "story" (id ++ ".json") fun path =>
    (document .storyUnit id path StoryUnit.ofJson?).andThen fun story =>
      done (.ok (if story.id.isEmpty then { story with id } else story))

/-- Loads a character from its directory, or else from a single document. -/
def character (root id : String) : Inquiry (Except ContentError CharacterRecord) :=
  entry root .character id "characters" id fun place =>
    test (Disk.join place "values.json") fun
      | true =>
        (document .character id (Disk.join place "values.json") Value.mapOfJson?).andThen
          fun fields =>
            (document? .character id (Disk.join place "body.json") Value.ofJson?).andThen
              fun sprites =>
                (document? .character id (Disk.join place "equipment.json")
                  (Json.listOf? Value.ofJson?)).andThen fun equipment =>
                    done (.ok ⟨fields, sprites.getD .null, equipment.getD []⟩)
      | false =>
        entry root .character id "characters" (id ++ ".json") fun path =>
          (document .character id path Value.mapOfJson?).andThen fun fields =>
            done (.ok (CharacterRecord.ofSingle fields))

/-- Loads a scene from its own document, or else from the common list. -/
def scene (root id : String) : Inquiry (Except ContentError Scene) :=
  entry root .scene id "scenes" (id ++ ".json") fun path =>
    (document? .scene id path Scene.ofJson?).andThen fun
      | some scene => done (.ok (if scene.id.isEmpty then { scene with id } else scene))
      | none =>
        (document? .scene id (Disk.join (Disk.join root "scenes") "scenes.json")
          Scene.listOfJson?).andThen fun scenes =>
            match (scenes.getD []).find? fun scene => scene.id = id with
            | some scene => done (.ok scene)
            | none => done (.error (.notFound .scene id))

variable {root id : String} {kind : ContentKind}

theorem run_document? (root : String) (kind : ContentKind) (id path : String)
    (decode : Json → Option α) :
    (document? kind id path decode).run disk =
      ContentDirectory.readOptional ⟨disk, root⟩ kind id path decode := by
  simp only [document?, ContentDirectory.readOptional, run]
  cases disk.readText path with
  | error cause => cases cause <;> rfl
  | ok content =>
      dsimp only
      cases (Json.read? content).bind decode <;> rfl

theorem run_document (root : String) (kind : ContentKind) (id path : String)
    (decode : Json → Option α) :
    (document kind id path decode).run disk =
      ContentDirectory.readDocument ⟨disk, root⟩ kind id path decode := by
  simp only [document, ContentDirectory.readDocument]
  rw [run_andThen, run_document? root]
  apply bind_congr
  intro found
  cases found <;> rfl

theorem run_entry {place name : String} (next : String → Inquiry (Except ContentError α)) :
    (entry root kind id place name next).run disk =
      ContentDirectory.entryPath ⟨disk, root⟩ kind id place name >>= fun path =>
        (next path).run disk :=
  run_andThen ..

theorem run_storyUnit : (storyUnit root id).run disk = ContentDirectory.storyUnit ⟨disk, root⟩ id := by
  simp only [storyUnit, ContentDirectory.storyUnit]
  rw [run_entry]
  apply bind_congr
  intro path
  rw [run_andThen, run_document root]
  rfl

theorem run_character : (character root id).run disk = ContentDirectory.character ⟨disk, root⟩ id := by
  simp only [character, ContentDirectory.character]
  rw [run_entry]
  apply bind_congr
  intro place
  simp only [run]
  cases disk.isFile (Disk.join place "values.json") with
  | true =>
      dsimp only
      rw [run_andThen, run_document root]
      apply bind_congr
      intro fields
      rw [run_andThen, run_document? root]
      apply bind_congr
      intro sprites
      rw [run_andThen, run_document? root]
      rfl
  | false =>
      dsimp only
      rw [run_entry]
      apply bind_congr
      intro path
      rw [run_andThen, run_document root]
      cases ContentDirectory.readDocument ⟨disk, root⟩ .character id path Value.mapOfJson? <;> rfl

theorem run_scene : (scene root id).run disk = ContentDirectory.scene ⟨disk, root⟩ id := by
  simp only [scene, ContentDirectory.scene]
  rw [run_entry]
  apply bind_congr
  intro path
  rw [run_andThen, run_document? root]
  apply bind_congr
  intro found
  cases found with
  | some scene => rfl
  | none =>
      dsimp only
      rw [run_andThen, run_document? root]
      apply bind_congr
      intro scenes
      cases (scenes.getD []).find? fun scene => scene.id = id <;> rfl

end Inquiry

/-! ## Where content may stand -/

/-- The files in a directory that content with the identifier may stand in. -/
def ContentKind.files (id : String) : ContentKind → List String
  | .storyUnit => [Disk.join "story" (id ++ ".json")]
  | .character =>
    [Disk.join (Disk.join "characters" id) "values.json",
      Disk.join (Disk.join "characters" id) "body.json",
      Disk.join (Disk.join "characters" id) "equipment.json",
      Disk.join "characters" (id ++ ".json")]
  | .scene => [Disk.join "scenes" (id ++ ".json"), Disk.join "scenes" "scenes.json"]

/-- The identifier is some text, and leads to files inward of the directory only. -/
def ContentKind.Admits (kind : ContentKind) (id : String) : Prop :=
  id ≠ "" ∧ ∀ file ∈ kind.files id, Disk.Inward file

open Disk (Inward)

theorem ContentDirectory.staysInside_iff (path : String) :
    staysInside path = true ↔ Inward path := by
  have named : (Disk.components path).contains ".." = false ↔ ".." ∉ Disk.components path := by
    rw [Bool.eq_false_iff, ne_eq, List.contains_iff_mem]
  simp only [staysInside]
  rw [Bool.and_eq_true, Bool.not_eq_true', Bool.not_eq_true', named]
  constructor
  · intro ⟨relative, no_parent⟩
    exact ⟨relative, no_parent⟩
  · intro inward
    exact ⟨inward.relative, inward.no_parent⟩

namespace ContentKind

variable {id : String}

theorem inward_document (inward : Inward id) (proper : id ≠ "") : Inward (id ++ ".json") :=
  inward.append proper (by decide) (by decide)

theorem storyUnit_admits_iff : storyUnit.Admits id ↔ id ≠ "" ∧ Inward (id ++ ".json") := by
  have place : Inward "story" := ⟨by decide +kernel, by decide +kernel⟩
  constructor
  · intro ⟨proper, each⟩
    exact ⟨proper, (each _ (List.mem_singleton.2 rfl)).of_join⟩
  · intro ⟨proper, inward⟩
    refine ⟨proper, ?_⟩
    intro file listed
    rw [List.mem_singleton.1 listed]
    exact place.join inward

theorem character_admits_iff : character.Admits id ↔ id ≠ "" ∧ Inward id := by
  have place : Inward "characters" := ⟨by decide +kernel, by decide +kernel⟩
  have values : Inward "values.json" := ⟨by decide +kernel, by decide +kernel⟩
  have body : Inward "body.json" := ⟨by decide +kernel, by decide +kernel⟩
  have equipment : Inward "equipment.json" := ⟨by decide +kernel, by decide +kernel⟩
  constructor
  · intro ⟨proper, each⟩
    exact ⟨proper, ((each _ (List.mem_cons_self ..)).left_of_join values.relative).of_join⟩
  · intro ⟨proper, inward⟩
    refine ⟨proper, ?_⟩
    intro file listed
    simp only [files, List.mem_cons, List.not_mem_nil, or_false] at listed
    rcases listed with same | same | same | same
    · rw [same]
      exact (place.join inward).join values
    · rw [same]
      exact (place.join inward).join body
    · rw [same]
      exact (place.join inward).join equipment
    · rw [same]
      exact place.join (inward_document inward proper)

theorem scene_admits_iff : scene.Admits id ↔ id ≠ "" ∧ Inward (id ++ ".json") := by
  have place : Inward "scenes" := ⟨by decide +kernel, by decide +kernel⟩
  have list : Inward "scenes.json" := ⟨by decide +kernel, by decide +kernel⟩
  constructor
  · intro ⟨proper, each⟩
    exact ⟨proper, (each _ (List.mem_cons_self ..)).of_join⟩
  · intro ⟨proper, inward⟩
    refine ⟨proper, ?_⟩
    intro file listed
    rcases List.mem_cons.1 listed with same | listed
    · rw [same]
      exact place.join inward
    · rw [List.mem_singleton.1 listed]
      exact place.join list

end ContentKind

namespace Inquiry

variable {α β : Type} {root id place name : String} {kind : ContentKind}

/-! ## What is asked about -/

/-- Whatever the disk answers, the inquiry asks about files of a directory that are listed. -/
def AsksOnly (root : String) (files : List String) (inquiry : Inquiry α) : Prop :=
  ∀ disk, ∀ path ∈ inquiry.asked disk, ∃ file ∈ files, path = Disk.join root file

variable {files : List String}

theorem done_asksOnly (result : α) : (done result).AsksOnly root files := by
  intro disk path asks
  cases asks

theorem test_asksOnly {path : String} {next : Bool → Inquiry α}
    (listed : ∃ file ∈ files, path = Disk.join root file)
    (rest : ∀ answer, (next answer).AsksOnly root files) :
    (test path next).AsksOnly root files := by
  intro disk asked asks
  rcases List.mem_cons.1 asks with same | asks
  · rw [same]
    exact listed
  · exact rest _ disk asked asks

theorem AsksOnly.andThen {inquiry : Inquiry (Except ContentError α)}
    {next : α → Inquiry (Except ContentError β)} (first : inquiry.AsksOnly root files)
    (rest : ∀ result, (next result).AsksOnly root files) :
    (inquiry.andThen next).AsksOnly root files := by
  intro disk path asks
  rcases mem_asked_andThen asks with early | ⟨result, late⟩
  · exact first disk path early
  · exact rest result disk path late

theorem document?_asksOnly {path : String} (listed : ∃ file ∈ files, path = Disk.join root file)
    (kind : ContentKind) (id : String) (decode : Json → Option α) :
    (document? kind id path decode).AsksOnly root files := by
  intro disk asked asks
  rcases List.mem_cons.1 asks with same | asks
  · rw [same]
    exact listed
  · cases found : disk.readText path with
    | error cause =>
        rw [found] at asks
        cases cause <;> cases asks
    | ok content =>
        rw [found] at asks
        dsimp only at asks
        cases decoded : (Json.read? content).bind decode <;> rw [decoded] at asks <;> cases asks

theorem document_asksOnly {path : String} (listed : ∃ file ∈ files, path = Disk.join root file)
    (kind : ContentKind) (id : String) (decode : Json → Option α) :
    (document kind id path decode).AsksOnly root files := by
  apply (document?_asksOnly listed kind id decode).andThen
  intro found
  cases found with
  | none => exact done_asksOnly _
  | some value => exact done_asksOnly _

/-! ## Checked identifiers -/

/-- The path of an entry is gone on with when its name leads inward. -/
theorem entry_admitted (next : String → Inquiry (Except ContentError α)) (proper : id ≠ "")
    (inward : Inward name) :
    entry root kind id place name next = next (Disk.join root (Disk.join place name)) := by
  have stays := (ContentDirectory.staysInside_iff name).2 inward
  simp only [entry, ContentDirectory.entryPath]
  rw [Disk.isEmpty_eq_false proper, stays]
  rfl

/-- An identifier that leads out of the directory is refused. -/
theorem entry_refused (next : String → Inquiry (Except ContentError α))
    (outward : ¬ (id ≠ "" ∧ Inward name)) :
    entry root kind id place name next = done (.error (.notFound kind id)) := by
  simp only [entry, ContentDirectory.entryPath]
  split
  · rfl
  · rename_i admitted
    rw [Bool.not_eq_true, Bool.or_eq_false_iff, Bool.not_eq_false',
      ContentDirectory.staysInside_iff] at admitted
    obtain ⟨some_id, inward⟩ := admitted
    have proper : id ≠ "" := by
      intro empty
      rw [empty] at some_id
      cases some_id
    exact absurd ⟨proper, inward⟩ outward

end Inquiry

/-- A loader that reaches by any identifier only what is inward of its directory, said of the inquiry
that it is. An identifier that is not admitted is not found, and only such a one asks nothing of the
disk. -/
structure Contained {α : Type} (root : String) (kind : ContentKind) (id : String)
    (inquiry : Inquiry (Except ContentError α))
    (load : ContentDirectory → Except ContentError α) : Prop where
  runs : ∀ disk, inquiry.run disk = load ⟨disk, root⟩
  inward : ∀ disk, ∀ path ∈ inquiry.asked disk,
    ∃ relative, Inward relative ∧ path = Disk.join root relative
  below : ∀ disk, ∀ path ∈ inquiry.asked disk, ∀ directory location,
    disk.locate root = .ok directory → disk.locate path = .ok location → directory <+: location
  untouched : ∀ disk, inquiry.asked disk = [] ↔ ¬ kind.Admits id
  notFound : ∀ disk, ¬ kind.Admits id → load ⟨disk, root⟩ = .error (.notFound kind id)
  blind : ∀ disk other : Disk,
    (∀ relative, Inward relative →
      disk.readText (Disk.join root relative) = other.readText (Disk.join root relative) ∧
        disk.isFile (Disk.join root relative) = other.isFile (Disk.join root relative)) →
    load ⟨disk, root⟩ = load ⟨other, root⟩

/-- A loader is contained when it checks its identifier first, and then asks about the files that
content of its kind may stand in. -/
theorem Contained.of_entry {α : Type} {root id place name : String} {kind : ContentKind}
    {next : String → Inquiry (Except ContentError α)}
    {load : ContentDirectory → Except ContentError α}
    (admits_iff : kind.Admits id ↔ id ≠ "" ∧ Inward name)
    (runs : ∀ disk, (Inquiry.entry root kind id place name next).run disk = load ⟨disk, root⟩)
    (asksOnly : kind.Admits id →
      (next (Disk.join root (Disk.join place name))).AsksOnly root (kind.files id))
    (asks : ∀ disk, (next (Disk.join root (Disk.join place name))).asked disk ≠ []) :
    Contained root kind id (.entry root kind id place name next) load := by
  have admitted : kind.Admits id → Inquiry.entry root kind id place name next =
      next (Disk.join root (Disk.join place name)) := by
    intro admits
    obtain ⟨proper, inward⟩ := admits_iff.1 admits
    exact Inquiry.entry_admitted next proper inward
  have refused : ¬ kind.Admits id → Inquiry.entry root kind id place name next =
      .done (.error (.notFound kind id)) := by
    intro outward
    rw [admits_iff] at outward
    exact Inquiry.entry_refused next outward
  have inward : ∀ disk, ∀ path ∈ (Inquiry.entry root kind id place name next).asked disk,
      ∃ relative, Inward relative ∧ path = Disk.join root relative := by
    intro disk path asked
    by_cases admits : kind.Admits id
    · rw [admitted admits] at asked
      obtain ⟨file, listed, same⟩ := asksOnly admits disk path asked
      exact ⟨file, admits.2 file listed, same⟩
    · rw [refused admits] at asked
      cases asked
  refine ⟨runs, inward, ?_, ?_, ?_, ?_⟩
  · intro disk path asked directory location rooted located
    obtain ⟨relative, leads, same⟩ := inward disk path asked
    subst same
    exact leads.below rooted located
  · intro disk
    constructor
    · intro untouched admits
      rw [admitted admits] at untouched
      exact asks disk untouched
    · intro outward
      rw [refused outward]
      rfl
  · intro disk outward
    rw [← runs, refused outward]
    rfl
  · intro disk other alike
    rw [← runs, ← runs]
    apply Inquiry.run_congr
    intro path asked
    obtain ⟨relative, leads, same⟩ := inward disk path asked
    subst same
    exact alike relative leads

namespace ContentDirectory

variable {root id : String}

theorem storyUnit_contained :
    Contained root .storyUnit id (.storyUnit root id) fun directory => directory.storyUnit id := by
  apply Contained.of_entry ContentKind.storyUnit_admits_iff fun disk => Inquiry.run_storyUnit
  · intro admits
    apply Inquiry.AsksOnly.andThen
    · apply Inquiry.document_asksOnly
      exact ⟨_, List.mem_singleton.2 rfl, rfl⟩
    · intro story
      exact Inquiry.done_asksOnly _
  · intro disk untouched
    cases untouched

/-- The documents of a character stand in its directory. -/
theorem character_file (proper : id ≠ "") (inward : Inward id) {name : String}
    (relative : name.startsWith "/" = false)
    (listed : Disk.join (Disk.join "characters" id) name ∈ ContentKind.character.files id) :
    ∃ file ∈ ContentKind.character.files id,
      Disk.join (Disk.join root (Disk.join "characters" id)) name = Disk.join root file := by
  have place : Inward "characters" := ⟨by decide +kernel, by decide +kernel⟩
  exact ⟨_, listed,
    Disk.join_join root (Disk.join_ne_empty _ proper) (place.join inward).relative relative⟩

theorem character_contained :
    Contained root .character id (.character root id) fun directory => directory.character id := by
  apply Contained.of_entry ContentKind.character_admits_iff fun disk => Inquiry.run_character
  · intro admits
    obtain ⟨proper, inward⟩ := ContentKind.character_admits_iff.1 admits
    have values : ∃ file ∈ ContentKind.character.files id,
        Disk.join (Disk.join root (Disk.join "characters" id)) "values.json" =
          Disk.join root file :=
      character_file proper inward (by decide +kernel) (by simp [ContentKind.files])
    apply Inquiry.test_asksOnly values
    intro split
    cases split with
    | true =>
        apply Inquiry.AsksOnly.andThen
        · exact Inquiry.document_asksOnly values _ _ _
        · intro fields
          apply Inquiry.AsksOnly.andThen
          · apply Inquiry.document?_asksOnly
            exact character_file proper inward (by decide +kernel) (by simp [ContentKind.files])
          · intro sprites
            apply Inquiry.AsksOnly.andThen
            · apply Inquiry.document?_asksOnly
              exact character_file proper inward (by decide +kernel) (by simp [ContentKind.files])
            · intro equipment
              exact Inquiry.done_asksOnly _
    | false =>
        dsimp only
        rw [Inquiry.entry_admitted _ proper (ContentKind.inward_document inward proper)]
        apply Inquiry.AsksOnly.andThen
        · apply Inquiry.document_asksOnly
          exact ⟨_, by simp [ContentKind.files], rfl⟩
        · intro fields
          exact Inquiry.done_asksOnly _
  · intro disk untouched
    cases untouched

theorem scene_contained :
    Contained root .scene id (.scene root id) fun directory => directory.scene id := by
  apply Contained.of_entry ContentKind.scene_admits_iff fun disk => Inquiry.run_scene
  · intro admits
    apply Inquiry.AsksOnly.andThen
    · apply Inquiry.document?_asksOnly
      exact ⟨_, List.mem_cons_self .., rfl⟩
    · intro found
      cases found with
      | some scene => exact Inquiry.done_asksOnly _
      | none =>
          have list : Disk.join (Disk.join root "scenes") "scenes.json" =
              Disk.join root (Disk.join "scenes" "scenes.json") :=
            Disk.join_join root (by decide) (by decide +kernel) (by decide +kernel)
          apply Inquiry.AsksOnly.andThen
          · apply Inquiry.document?_asksOnly
            exact ⟨_, List.mem_cons_of_mem _ (List.mem_cons_self ..), list⟩
          · intro scenes
            split
            · exact Inquiry.done_asksOnly _
            · exact Inquiry.done_asksOnly _
  · intro disk untouched
    cases untouched

/-- No identifier leads out of the directory: whatever text it is, a story unit, a character and a
scene are loaded from files inward of the directory, or not at all. -/
theorem loading_contained (root id : String) :
    Contained root .storyUnit id (.storyUnit root id) (fun directory => directory.storyUnit id) ∧
      Contained root .character id (.character root id) (fun directory =>
        directory.character id) ∧
      Contained root .scene id (.scene root id) (fun directory => directory.scene id) :=
  ⟨storyUnit_contained, character_contained, scene_contained⟩

end ContentDirectory

end VisualNovel
