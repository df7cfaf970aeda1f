import VisualNovel.Command.Check
import VisualNovel.Proofs.Disk.Paths
import VisualNovel.Proofs.Interpreter.Staying

/-!
# What a check finds

A check that reports no problem has loaded every unit of the directory, and has found each target of
their steps among the labels of the same unit or the units of the directory. So the units of the
directory are closed, and a story that is started in them never lacks a unit.
-/

namespace VisualNovel

variable {content : Content} {known : List String} {story : StoryUnit}

/-! ## Inspected units -/

theorem StoryUnit.mem_gotoTargets {position : Nat} {target : String} :
    (position, target) ∈ story.gotoTargets ↔
      ∃ step, story.step? position = some step ∧ target ∈ step.targets := by
  simp only [StoryUnit.gotoTargets, StoryUnit.step?, List.mem_flatMap, Prod.exists,
    List.mem_map, Prod.mk.injEq]
  constructor
  · rintro ⟨step, index, found, other, named, rfl, rfl⟩
    exact ⟨step, List.mem_zipIdx_iff_getElem?.1 found, named⟩
  · rintro ⟨step, found, named⟩
    exact ⟨step, position, List.mem_zipIdx_iff_getElem?.2 found, target, named, rfl, rfl⟩

namespace Inspection

/-- A unit has no lost target when each target of its steps is a label of the unit or known. -/
theorem lostTargets_eq_nil {id : String} :
    lostTargets known id story = [] ↔
      ∀ step ∈ story.steps, ∀ target ∈ step.targets,
        (story.labelIndex? target).isSome = true ∨ target ∈ known := by
  have kept : ∀ position target,
      (if (story.labelIndex? target).isNone && !known.contains target then
          some (Problem.lostTarget id position target) else none) = none ↔
        (story.labelIndex? target).isSome = true ∨ target ∈ known := by
    intro position target
    cases story.labelIndex? target <;> simp
  simp only [lostTargets, List.filterMap_eq_nil_iff, Prod.forall, kept]
  constructor
  · intro leads step member target named
    obtain ⟨position, found⟩ := List.mem_iff_getElem?.1 member
    exact leads position target (StoryUnit.mem_gotoTargets.2 ⟨step, found, named⟩)
  · intro leads position target listed
    obtain ⟨step, found, named⟩ := StoryUnit.mem_gotoTargets.1 listed
    exact leads step (List.mem_of_getElem? found) target named

/-- A unit without problems can be loaded and has no lost target. -/
theorem inspectUnit_eq_nil {id : String} :
    (inspectUnit content known id).2 = [] ↔
      ∃ source, content.storyUnit id = .ok source ∧ lostTargets known id source = [] := by
  simp only [inspectUnit]
  split
  · rename_i cause lost
    simp [lost]
  · rename_i source loaded
    simp [loaded]

end Inspection

/-- Units are closed exactly when the inspection of each finds no problem. -/
theorem Content.closed_iff :
    content.Closed known ↔ ∀ id ∈ known, (Inspection.inspectUnit content known id).2 = [] := by
  simp only [Inspection.inspectUnit_eq_nil, Inspection.lostTargets_eq_nil]
  constructor
  · intro closed id listed
    obtain ⟨story, loaded⟩ := closed.loaded id listed
    obtain ⟨source, delivered, rfl⟩ := Content.unit?_eq_some.1 loaded
    refine ⟨source, delivered, ?_⟩
    intro step member target named
    have leads := closed.targets listed loaded member named
    exact leads
  · intro inspected
    constructor
    · intro id listed
      obtain ⟨source, delivered, -⟩ := inspected id listed
      exact ⟨{ source with id }, Content.unit?_eq_some.2 ⟨source, delivered, rfl⟩⟩
    · intro id story step target listed loaded member named
      obtain ⟨source, delivered, leads⟩ := inspected id listed
      obtain ⟨other, same, rfl⟩ := Content.unit?_eq_some.1 loaded
      rw [delivered] at same
      cases same
      exact leads step member target named

/-! ## Directories that pass -/

variable {disk : Disk} {directory : String}

theorem Inspection.report_exitCode {inspection : Inspection} :
    inspection.report.exitCode = 0 ↔ inspection.problems = [] := by
  simp only [report]
  cases inspection.problems with
  | nil => simp [Report.success]
  | cons problem problems => simp [Report.failure]

/-- A directory that passes holds a unit, and neither its units nor its configuration nor its rules
have a problem. -/
theorem checkCommand_passed (passed : (checkCommand disk directory).exitCode = 0) :
    (ContentDirectory.mk disk directory).storyUnitIds ≠ [] ∧
      (∀ id ∈ (ContentDirectory.mk disk directory).storyUnitIds,
        (Inspection.inspectUnit (contentAt disk directory)
          (ContentDirectory.mk disk directory).storyUnitIds id).2 = []) ∧
      Inspection.configurationProblems disk directory = [] ∧
      Inspection.ruleProblems disk directory = [] := by
  simp only [checkCommand] at passed
  split at passed
  · cases passed
  · rename_i inspection inspected
    have problems := Inspection.report_exitCode.1 passed
    simp only [Inspection.ofDirectory] at inspected
    split at inspected
    · cases inspected
    · cases inspected
    · rename_i ids filled listed
      cases listed
      cases inspected
      simp only [List.append_eq_nil_iff, List.flatMap_eq_nil_iff, List.forall_mem_map] at problems
      exact ⟨filled, problems.1.1, problems.1.2, problems.2⟩

/-- The units of a directory that passes are closed. -/
theorem checkCommand_closed (passed : (checkCommand disk directory).exitCode = 0) :
    (contentAt disk directory).Closed (ContentDirectory.mk disk directory).storyUnitIds :=
  Content.closed_iff.2 (checkCommand_passed passed).2.1

/-- A document fails as a document of its kind, or because its file cannot be read. -/
theorem ContentDirectory.readOptional_kind {α : Type} {source : ContentDirectory}
    {kind : ContentKind} {id path : String} {decode : Json → Option α} {cause : ContentError}
    (failed : source.readOptional kind id path decode = .error cause) :
    cause.kind? = some kind ∨ cause.kind? = none := by
  simp only [readOptional] at failed
  split at failed
  · cases failed
  · cases failed
    exact .inr rfl
  · split at failed
    · cases failed
    · cases failed
      exact .inl rfl

/-- A scene fails as a scene, or because a file cannot be read. -/
theorem ContentDirectory.scene_kind {source : ContentDirectory} {id : String}
    {cause : ContentError} (failed : source.scene id = .error cause) :
    cause.kind? = some .scene ∨ cause.kind? = none := by
  simp only [scene, bind, Except.bind] at failed
  split at failed
  · rename_i outside
    simp only [entryPath] at outside
    split at outside
    · cases outside
      cases failed
      exact .inl rfl
    · cases outside
  · split at failed
    · rename_i lost
      cases failed
      exact readOptional_kind lost
    · split at failed
      · cases failed
      · split at failed
        · rename_i lost
          cases failed
          exact readOptional_kind lost
        · split at failed
          · cases failed
          · cases failed
            exact .inl rfl

/-- A check is sound for jumps. When it reports no problem, and a host starts the story in units of
the directory only, and neither redirects nor resumes it, then no jump, no action of an option, no
return and no end of a unit lacks a unit: an operation that fails for want of content has come to a
step that changes the scene, and it is the scene that cannot be loaded. Wherever the story rests,
each target of its step is found, and its caller too. -/
theorem checkCommand_sound {settings : StorySettings} {past later : List Operation}
    {operation : Operation} {outcome : Outcome}
    (passed : (checkCommand disk directory).exitCode = 0)
    (staying : (Policy.staying (ContentDirectory.mk disk directory).storyUnitIds).Permits
      (.new (contentAt disk directory) settings) (past ++ operation :: later))
    (ran : operation.outcome?
      (Operation.performAll (.new (contentAt disk directory) settings) past) = some outcome) :
    (∀ cause, outcome.cause? = some cause →
        outcome.after.LosesScene cause ∧ cause.kind? ≠ some .storyUnit) ∧
      (∀ step target, outcome.after.currentStep? = some step → target ∈ step.targets →
        ∃ next, outcome.after.jump target = (.ok .jumped, next)) ∧
      ∃ flow next, outcome.after.returnToCaller = (.ok flow, next) := by
  have closed := checkCommand_closed passed
  have safe := closed.safe staying ran
  refine ⟨?_, ?_, ?_⟩
  · intro cause failed
    have lost := safe.lost failed
    refine ⟨lost, ?_⟩
    obtain ⟨step, name, id, -, -, -, missing⟩ := lost
    rw [safe.after.source] at missing
    rcases ContentDirectory.scene_kind missing with kind | kind
    · rw [kind]
      decide
    · rw [kind]
      decide
  · intro step target found names
    obtain ⟨next, jumped, -⟩ := safe.after.jump closed found names
    exact ⟨next, jumped⟩
  · obtain ⟨flow, next, returned, -⟩ := safe.after.returnToCaller closed
    exact ⟨flow, next, returned⟩

/-- Units that the entries list in ascending order are the units of the directory. -/
theorem ContentDirectory.storyUnitIds_of_listed {source : ContentDirectory} {ids : List String}
    (listed : (source.disk.entries (Disk.join source.root "story")).toOption.map
      (unitIdsOfEntries []) = some ids)
    (ascending : ids.Pairwise fun left right => decide (left ≤ right) = true) :
    source.storyUnitIds = ids := by
  cases found : source.disk.entries (Disk.join source.root "story") with
  | error cause =>
      rw [found] at listed
      cases listed
  | ok entries =>
      rw [found] at listed
      simp only [storyUnitIds, found]
      rw [Option.some.inj listed]
      exact List.mergeSort_of_pairwise ascending

/-- The text of a unit. -/
def unitText (steps : List Step) : String :=
  (StoryUnit.toJson ⟨"", steps⟩).compact

/-- A disk with a unit that calls another one by the action of an option, and a scene behind the
call that does not exist. -/
def mineDisk : Disk where
  tree := .directory [("story", .directory [
    ("deep", .directory [("mine.json", .file (some (unitText [⟨none, .back⟩])))]),
    ("start.json", .file (some (unitText [
      ⟨none, .choice ⟨none, none, [⟨"Down", some [.goto "deep/mine"]⟩]⟩⟩,
      ⟨none, .scene (some "void")⟩])))])]
  current := []

/-- The story on the disk, at its choice. -/
def mineStory : Interpreter :=
  Operation.performAll (.new (contentAt mineDisk "") .standard) [.start "start"]

theorem mineDisk_ids :
    (ContentDirectory.mk mineDisk "").storyUnitIds = ["deep/mine", "start"] := by
  refine ContentDirectory.storyUnitIds_of_listed ?_ (by decide)
  simp only [Disk.entries, Disk.node, Disk.locate_eq]
  decide +kernel

theorem mineDisk_passes : (checkCommand mineDisk "").exitCode = 0 := by
  simp only [checkCommand, Inspection.ofDirectory, contentAt, ContentDirectory.toContent,
    mineDisk_ids, List.map_cons, List.map_nil, Inspection.inspectUnit, ContentDirectory.storyUnit,
    ContentDirectory.readDocument, ContentDirectory.readOptional, Inspection.configurationProblems,
    Configuration.load, Inspection.ruleProblems, Disk.readText, Disk.node, Disk.locate_eq]
  decide +kernel

/-- The story waits at the call, and fails for want of the scene behind it. -/
theorem mineStory_tells :
    mineStory.currentStep?.map Step.targets = some ["deep/mine"] ∧
      (mineStory.select 0).cause? = some (.notFound .scene "void") := by
  simp only [mineStory, contentAt, ContentDirectory.toContent]
  delta ContentDirectory.storyUnit ContentDirectory.scene
  simp only [ContentDirectory.readDocument, ContentDirectory.readOptional, Disk.readText,
    Disk.node, Disk.locate_eq]
  decide +kernel

/-- The directory passes, the choice can be left for the mine, and behind the call the story fails
for want of a scene. -/
theorem checkCommand_sound_mine :
    (checkCommand mineDisk "").exitCode = 0 ∧
      (∃ next, mineStory.jump "deep/mine" = (.ok .jumped, next)) ∧
      (mineStory.select 0).cause? = some (.notFound .scene "void") ∧
      (mineStory.select 0).after.LosesScene (.notFound .scene "void") := by
  have staying : (Policy.staying (ContentDirectory.mk mineDisk "").storyUnitIds).Permits
      (.new (contentAt mineDisk "") .standard) ([] ++ [.start "start", .select 0]) := by
    rw [mineDisk_ids]
    exact ⟨by simp [Policy.staying], trivial, trivial⟩
  have starts := checkCommand_sound mineDisk_passes staying rfl
  have goes := checkCommand_sound mineDisk_passes
    (show (Policy.staying _).Permits _ ([.start "start"] ++ [.select 0]) from staying) rfl
  obtain ⟨asks, fails⟩ := mineStory_tells
  obtain ⟨step, found, targets⟩ := Option.map_eq_some_iff.1 asks
  have names : "deep/mine" ∈ step.targets := by
    rw [targets]
    exact List.mem_singleton.2 rfl
  exact ⟨mineDisk_passes, starts.2.1 step _ found names, fails, (goes.1 _ fails).1⟩

end VisualNovel
