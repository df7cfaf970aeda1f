import VisualNovel.Content.Directory
import VisualNovel.Proofs.Dict
import VisualNovel.Proofs.Disk.Paths
import VisualNovel.Proofs.Interpreter.Resuming

/-!
# Scenes under their own identifiers

A snapshot keeps the identifier that the current scene declares, and resuming asks the content for
this identifier. A library holds every scene under the identifier it declares. A directory finds a
scene by the name of its document, and the document may declare another identifier: such a scene is
the only one that can be delivered and not be found again.
-/

namespace VisualNovel

/-! ## Libraries -/

namespace Library

variable {library : Library}

/-- The libraries that are put together by adding to an empty one. -/
inductive Built : Library → Prop where
  | empty : Built .empty
  | addUnit {library : Library} (story : StoryUnit) :
      Built library → Built (library.addUnit story)
  | addCharacter {library : Library} (id : String) (data : CharacterRecord) :
      Built library → Built (library.addCharacter id data)
  | addScene {library : Library} (scene : Scene) :
      Built library → Built (library.addScene scene)

/-- Scenes stand under the identifiers they declare. -/
theorem Built.scene_id (built : library.Built) {id : String} {scene : Scene}
    (found : Dict.get? library.scenes id = some scene) : scene.id = id := by
  induction built with
  | empty => cases found
  | addUnit story built ih => exact ih found
  | addCharacter other data built ih => exact ih found
  | addScene added built ih =>
      have held : Dict.get? (Dict.insert added.id added _) id = some scene := found
      rw [Dict.get?_insert] at held
      split at held
      · rename_i same
        cases held
        exact same
      · exact ih held

theorem Built.delivered_id (built : library.Built) {id : String} {scene : Scene}
    (delivered : library.toContent.scene id = .ok scene) : scene.id = id := by
  apply built.scene_id
  simp only [toContent, load] at delivered
  split at delivered
  · rename_i found present
    cases delivered
    exact present
  · cases delivered

end Library

/-! ## Directories -/

namespace ContentDirectory

variable {directory : ContentDirectory} {id : String} {scene : Scene}

/-- The document that is named by the identifier declares the scene under another one. -/
def Redeclares (directory : ContentDirectory) (id : String) (scene : Scene) : Prop :=
  ∃ path, directory.entryPath .scene id "scenes" (id ++ ".json") = .ok path ∧
    directory.readOptional .scene id path Scene.ofJson? = .ok (some scene) ∧
    scene.id ≠ "" ∧ scene.id ≠ id

/-- A scene that is delivered has the identifier it was asked for, unless its document declares
another one. -/
theorem scene_id (delivered : directory.scene id = .ok scene) :
    scene.id = id ∨ directory.Redeclares id scene := by
  simp only [ContentDirectory.scene, bind, Except.bind] at delivered
  split at delivered
  · cases delivered
  · rename_i path inward
    split at delivered
    · cases delivered
    · rename_i document own
      split at delivered
      · rename_i declared
        split at delivered
        · cases delivered
          exact .inl rfl
        · rename_i proper
          cases delivered
          by_cases same : scene.id = id
          · exact .inl same
          · refine .inr ⟨path, inward, own, ?_, same⟩
            intro anonymous
            rw [anonymous] at proper
            exact proper rfl
      · split at delivered
        · cases delivered
        · split at delivered
          · rename_i listed
            cases delivered
            have named := List.find?_some listed
            exact .inl (of_decide_eq_true named)
          · cases delivered

/-- A scene that is delivered is found under its own identifier, unless its document declares one
that is not the name of the document. -/
theorem scene_found (delivered : directory.scene id = .ok scene) :
    directory.scene scene.id = .ok scene ∨ directory.Redeclares id scene := by
  rcases scene_id delivered with same | redeclared
  · rw [same]
    exact .inl delivered
  · exact .inr redeclared

end ContentDirectory

/-! ## Snapshots -/

namespace Interpreter

variable {content : Content} {settings limits : StorySettings}
variable {interpreter other : Interpreter} {snapshot : Snapshot} {scene : Scene}

/-- What an interpreter finds of a scene that stands in a snapshot. -/
theorem Sound.restoredScene_declared (target : other.Sound content limits) (scene : Scene) :
    other.restoredScene (some scene.id) = (content.scene scene.id).toOption := by
  have source : other.content = content := target.source
  simp only [restoredScene]
  rw [source]
  rfl

/-- The snapshot of a sound interpreter is resumed by a run that begins with what the content
delivers for the identifier of the scene. -/
theorem Sound.resumeFrom_begins (sound : interpreter.Sound content settings)
    (target : other.Sound content limits) (stands : interpreter.scene = some scene)
    (taken : interpreter.snapshot = .ok snapshot) :
    ∃ begun : Interpreter, other.resumeFrom snapshot = begun.run ∧ begun.restoring = true ∧
      begun.scene = (content.scene scene.id).toOption := by
  cases running : interpreter.story with
  | none =>
      simp only [Interpreter.snapshot] at taken
      rw [running] at taken
      cases taken
  | some story =>
      have held := snapshot_eq running taken
      obtain ⟨source, delivered, named⟩ := sound.delivered running
      obtain ⟨units, fetched⟩ := target.fetchUnit delivered named
      have unit : snapshot.unitId = story.id := by rw [held]
      rw [← unit] at fetched
      refine ⟨_, resumeFrom_eq fetched, rfl, ?_⟩
      change other.restoredScene snapshot.scene = _
      rw [held, stands]
      exact target.restoredScene_declared scene

/-- At a step that waits, the scene stays what the content delivers. -/
theorem Sound.resumeFrom_scene (sound : interpreter.Sound content settings)
    (target : other.Sound content limits) (room : 0 < limits.maxAutoSteps)
    (stands : interpreter.scene = some scene) (taken : interpreter.snapshot = .ok snapshot)
    {status : Status} (waits : interpreter.pause? = some status) :
    (other.resumeFrom snapshot).after.scene = (content.scene scene.id).toOption := by
  obtain ⟨story, step, running, position, pauses⟩ := pause?_eq_some waits
  obtain ⟨source, delivered, named⟩ := sound.delivered running
  have held := snapshot_eq running taken
  have unit : snapshot.unitId = story.id := by rw [held]
  have found : story.step? snapshot.step = some step := by
    rw [held]
    exact position
  obtain ⟨units, screen, restoreParts, resumed⟩ :=
    target.resumeFrom_suspended room delivered named unit found pauses
  rw [resumed]
  change other.restoredScene snapshot.scene = _
  rw [held, stands]
  exact target.restoredScene_declared scene

/-- Scenes are closed under saving but for documents that redeclare their identifier. A library
finds each scene it delivers again under the identifier of the scene, and so does a directory unless
the document that is named by the requested identifier declares another one. The scene of a running
story is one that the content has delivered, and it is found again behind a snapshot precisely when
the content delivers it under its own identifier. -/
theorem scene_found_again {library : Library} (directory : ContentDirectory)
    (built : library.Built) (reachable : interpreter.Reachable content settings)
    (target : other.Reachable content limits) (stands : interpreter.scene = some scene)
    (taken : interpreter.snapshot = .ok snapshot) :
    (∀ id found, library.toContent.scene id = .ok found →
        found.id = id ∧ library.toContent.scene found.id = .ok found) ∧
      (∀ id found, directory.toContent.scene id = .ok found →
        directory.toContent.scene found.id = .ok found ∨ directory.Redeclares id found) ∧
      (∃ id, content.scene id = .ok scene) ∧ snapshot.scene = some scene.id ∧
      (other.restoredScene snapshot.scene = some scene ↔ content.scene scene.id = .ok scene) ∧
      (∃ begun : Interpreter, other.resumeFrom snapshot = begun.run ∧ begun.restoring = true ∧
        begun.scene = other.restoredScene snapshot.scene) ∧
      ∀ status, 0 < limits.maxAutoSteps → interpreter.pause? = some status →
        (other.resumeFrom snapshot).after.scene = other.restoredScene snapshot.scene := by
  have sound := reachable.sound
  have kept : snapshot.scene = some scene.id := by
    cases running : interpreter.story with
    | none =>
        simp only [Interpreter.snapshot] at taken
        rw [running] at taken
        cases taken
    | some story =>
        rw [snapshot_eq running taken, stands]
        rfl
  have restored := target.sound.restoredScene_declared scene
  rw [kept, restored]
  refine ⟨?_, ?_, World.Sound.scene sound stands, rfl, ?_, ?_, ?_⟩
  · intro id found delivered
    have same := built.delivered_id delivered
    refine ⟨same, ?_⟩
    rw [same]
    exact delivered
  · intro id found delivered
    exact ContentDirectory.scene_found delivered
  · cases content.scene scene.id with
    | error cause => simp [Except.toOption]
    | ok found => simp [Except.toOption]
  · exact sound.resumeFrom_begins target.sound stands taken
  · intro status room waits
    exact sound.resumeFrom_scene target.sound room stands taken waits

/-- A unit that leads into the scene `hall`. -/
def hallUnit : StoryUnit :=
  ⟨"", [⟨none, .scene (some "hall")⟩, ⟨none, .dialogue ⟨none, "A hall.", none, []⟩⟩]⟩

/-- A directory with the unit, and with a scene whose document is named `hall` and declares another
identifier. -/
def hallDirectory : ContentDirectory where
  disk := {
    tree := .directory [
      ("story", .directory [("start.json", .file (some hallUnit.toJson.compact))]),
      ("scenes", .directory [("hall.json", .file (some (Scene.toJson ⟨"grand", []⟩).compact))])]
    current := [] }
  root := ""

/-- The story in the hall. -/
def hallStory : Interpreter :=
  Operation.performAll (.new hallDirectory.toContent .standard) [.start "start"]

theorem hallStory_stands :
    (hallDirectory.toContent.scene "hall").toOption.map Scene.id = some "grand" ∧
      (hallDirectory.toContent.scene "grand").toOption.map Scene.id = none ∧
      hallStory.scene.map Scene.id = some "grand" ∧ hallStory.snapshot.isOk ∧
      hallStory.pause? = some .dialogue := by
  simp only [hallStory, ContentDirectory.toContent]
  delta ContentDirectory.storyUnit ContentDirectory.scene
  simp only [ContentDirectory.readDocument, ContentDirectory.readOptional, Disk.readText,
    Disk.node, Disk.locate_eq]
  decide +kernel

/-- The document of the hall redeclares its identifier, and the story that was saved in the hall goes
on without a scene. -/
theorem scene_found_again_hall :
    ∃ found snapshot, hallDirectory.toContent.scene "hall" = .ok found ∧ found.id = "grand" ∧
      hallDirectory.Redeclares "hall" found ∧ hallStory.snapshot = .ok snapshot ∧
      snapshot.scene = some "grand" ∧
      ((new hallDirectory.toContent .standard).resumeFrom snapshot).after.scene = none := by
  obtain ⟨hall, grand, standing, saved, waits⟩ := hallStory_stands
  cases delivered : hallDirectory.toContent.scene "hall" with
  | error cause =>
      rw [delivered] at hall
      cases hall
  | ok found =>
      rw [delivered] at hall
      have named : found.id = "grand" := Option.some.inj hall
      obtain ⟨scene, stands, same⟩ := Option.map_eq_some_iff.1 standing
      cases taken : hallStory.snapshot with
      | error cause =>
          rw [taken] at saved
          cases saved
      | ok snapshot =>
          have reached : hallStory.Reachable hallDirectory.toContent .standard := ⟨_, rfl⟩
          have fresh : (new hallDirectory.toContent .standard).Reachable
              hallDirectory.toContent .standard := ⟨[], rfl⟩
          obtain ⟨-, directory, -, kept, -, -, resumed⟩ :=
            scene_found_again hallDirectory .empty reached fresh stands taken
          have lost : (hallDirectory.toContent.scene "grand").toOption = none :=
            Option.map_eq_none_iff.1 grand
          have redeclared : hallDirectory.Redeclares "hall" found := by
            rcases directory "hall" found delivered with again | redeclared
            · rw [named] at again
              rw [again] at lost
              cases lost
            · exact redeclared
          refine ⟨found, snapshot, rfl, named, redeclared, rfl, ?_, ?_⟩
          · rw [kept, same]
          · rw [resumed .dialogue (by decide) waits, kept, same]
            exact lost

end Interpreter

end VisualNovel
