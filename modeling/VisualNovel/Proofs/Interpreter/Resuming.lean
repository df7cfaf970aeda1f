import VisualNovel.Proofs.Interpreter.Sound

/-!
# Resuming at a step that waits

A story that is resumed at a step that waits performs this step alone. The interpreter of the
snapshot and the one that resumes it agree about the unit, because both take it from the same
content.
-/

namespace VisualNovel

namespace StepKind

/-- What the story waits for at a step that a restore does not pass. A title card is not among
them. -/
def pause? : StepKind → Option Status
  | .dialogue _ => some .dialogue
  | .input _ _ => some .input
  | .choice _ => some .choice
  | _ => none

/-- What is left to do at a step that is resumed with some parts of its line on screen. -/
def left (shown : Nat) : StepKind → List Continuation
  | .dialogue line => line.left (min shown line.parts.length)
  | _ => []

end StepKind

namespace Interpreter

variable {content : Content} {settings : StorySettings}
variable {interpreter after : Interpreter} {story : StoryUnit} {step : Step} {status : Status}

/-- A step that waits shows its line, question or options again after a restore, and touches nothing
else. -/
theorem dispatch_restoring (restoring : interpreter.restoring = true)
    (waits : step.kind.pause? = some status) :
    ∃ screen restoreParts, interpreter.dispatch step = (.ok (.suspend status),
      { interpreter with
        restoring := false, restoreParts, screen
        continuations := step.kind.left interpreter.restoreParts ++
          interpreter.continuations }) := by
  cases kind : step.kind with
  | dialogue line =>
      rw [kind] at waits
      cases waits
      obtain ⟨screen, -, passed⟩ := showDialogue_restoring restoring line
      refine ⟨screen, 0, ?_⟩
      simp only [dispatch]
      rw [kind]
      dsimp only
      rw [showDialogue_eq, passed]
      rfl
  | input path text =>
      rw [kind] at waits
      cases waits
      refine ⟨(interpreter.showInput path text).2.screen, interpreter.restoreParts, ?_⟩
      simp only [dispatch]
      rw [kind]
      rfl
  | choice offer =>
      rw [kind] at waits
      cases waits
      refine ⟨(interpreter.showChoice offer).2.screen, interpreter.restoreParts, ?_⟩
      simp only [dispatch]
      rw [kind]
      rfl
  | _ =>
      rw [kind] at waits
      cases waits

/-- A run that starts at a step that waits performs it alone. -/
theorem run_suspended (current : interpreter.story = some story)
    (found : story.step? interpreter.step = some step)
    (room : 0 < interpreter.settings.maxAutoSteps)
    (waiting : interpreter.dispatch step = (.ok (.suspend status), after)) :
    interpreter.run = after.wait status := by
  have position := (currentStep?_eq current).trans found
  simp only [run, rounds, loop]
  rw [turn_step position room, waiting]
  rfl

/-- The unit of a sound interpreter is what the content delivers under its identifier. -/
theorem Sound.delivered (sound : interpreter.Sound content settings)
    (current : interpreter.story = some story) :
    ∃ source, content.storyUnit story.id = .ok source ∧ story = { source with id := story.id } :=
  (sound.units (sound.story current)).2

/-- A sound interpreter finds what its content delivers. -/
theorem Sound.fetchUnit (sound : interpreter.Sound content settings) {source : StoryUnit}
    (delivered : content.storyUnit story.id = .ok source)
    (named : story = { source with id := story.id }) :
    ∃ units, interpreter.fetchUnit story.id = (.ok story, { interpreter with units }) := by
  generalize fetched : interpreter.fetchUnit story.id = outcome
  obtain ⟨result, after⟩ := outcome
  cases result with
  | error cause =>
      have same : interpreter.content = content := sound.source
      simp only [Interpreter.fetchUnit] at fetched
      rw [same, delivered] at fetched
      split at fetched <;> cases fetched
  | ok other =>
      obtain ⟨units, known, rfl⟩ := fetchUnit_ok fetched
      refine ⟨units, ?_⟩
      have kept : World.Sound content settings { interpreter.world with units } :=
        World.Sound.fetched sound known
      obtain ⟨-, origin, loaded, same⟩ := kept.units known.get?
      rw [delivered] at loaded
      cases loaded
      rw [same, ← named]

/-- The interpreter with everything that a snapshot holds put in its place, about to pass the
step. -/
def placed (interpreter : Interpreter) (story : StoryUnit) (snapshot : Snapshot) : Interpreter :=
  let cleared := { interpreter.clearDisplay with
    continuations := []
    restoring := true
    restoreParts := snapshot.dialoguePart.getD 0
    callStack := snapshot.callStack.reverse
    visible := snapshot.visible
    scene := interpreter.restoredScene snapshot.scene
    step := min snapshot.step story.steps.length }.dropAbsent
  { cleared with
    history := cleared.history.replace
      (snapshot.history.getD (cleared.rebuiltHistory story (snapshot.dialoguePart.getD 0)))
    audio := cleared.restoredAudio snapshot.audio
    story := some story
    status := .notStarted
    state := cleared.state.touch }

/-- A snapshot whose unit is found is resumed from its place. -/
theorem resumeFrom_eq {snapshot : Snapshot}
    (fetched : interpreter.fetchUnit snapshot.unitId = (.ok story, after)) :
    interpreter.resumeFrom snapshot = (after.placed story snapshot).run := by
  simp only [resumeFrom]
  rw [fetched]
  rfl

/-- What a snapshot of a running story holds. -/
theorem snapshot_eq {snapshot : Snapshot} (current : interpreter.story = some story)
    (saved : interpreter.snapshot = .ok snapshot) :
    snapshot = {
      unitId := story.id
      step := interpreter.step
      callStack := interpreter.callStack.reverse
      visible := interpreter.visible
      scene := interpreter.scene.map Scene.id
      history := some interpreter.history.entries
      audio := interpreter.audio.loopingStreams
      dialoguePart := interpreter.shownParts? } := by
  simp only [Interpreter.snapshot] at saved
  rw [current] at saved
  cases saved
  rfl

theorem step?_lt {position : Nat} (found : story.step? position = some step) :
    position < story.steps.length := by
  simp only [StoryUnit.step?] at found
  exact (List.getElem?_eq_some_iff.1 found).1

/-- A snapshot is resumed by performing its step, when this step waits. -/
theorem Sound.resumeFrom_waits {snapshot : Snapshot} {source : StoryUnit}
    (sound : interpreter.Sound content settings) (room : 0 < settings.maxAutoSteps)
    (delivered : content.storyUnit story.id = .ok source)
    (named : story = { source with id := story.id }) (unit : snapshot.unitId = story.id)
    (found : story.step? snapshot.step = some step) :
    ∃ units, ∀ {status after},
      ({ interpreter with units }.placed story snapshot).dispatch step =
        (.ok (.suspend status), after) →
      interpreter.resumeFrom snapshot = after.wait status := by
  obtain ⟨units, fetched⟩ := sound.fetchUnit delivered named
  rw [← unit] at fetched
  refine ⟨units, ?_⟩
  intro status after waiting
  refine (resumeFrom_eq fetched).trans (run_suspended rfl ?_ ?_ waiting)
  · change story.step? (min snapshot.step story.steps.length) = some step
    rw [Nat.min_eq_left (Nat.le_of_lt (step?_lt found))]
    exact found
  · change 0 < interpreter.settings.maxAutoSteps
    rw [show interpreter.settings = settings from sound.limits]
    exact room

/-- A snapshot at a step that waits is resumed by passing this step. -/
theorem Sound.resumeFrom_suspended {snapshot : Snapshot} {source : StoryUnit}
    (sound : interpreter.Sound content settings) (room : 0 < settings.maxAutoSteps)
    (delivered : content.storyUnit story.id = .ok source)
    (named : story = { source with id := story.id }) (unit : snapshot.unitId = story.id)
    (found : story.step? snapshot.step = some step) (waits : step.kind.pause? = some status) :
    ∃ units screen restoreParts, interpreter.resumeFrom snapshot = wait
      { { interpreter with units }.placed story snapshot with
        restoring := false, restoreParts, screen
        continuations := step.kind.left (snapshot.dialoguePart.getD 0) } status := by
  obtain ⟨units, resumes⟩ := sound.resumeFrom_waits room delivered named unit found
  obtain ⟨screen, restoreParts, passed⟩ := dispatch_restoring
    (rfl : ({ interpreter with units }.placed story snapshot).restoring = true) waits
  refine ⟨units, screen, restoreParts, ?_⟩
  rw [resumes passed]
  change wait { { interpreter with units }.placed story snapshot with
    restoring := false, restoreParts, screen
    continuations := step.kind.left (snapshot.dialoguePart.getD 0) ++ [] } status = _
  rw [List.append_nil]

/-! ## The place of a story -/

/-- Where the story stands. -/
def place (interpreter : Interpreter) : Option String × Nat × List CallFrame :=
  (interpreter.unitId?, interpreter.step, interpreter.callStack)

/-- What the story waits for at the current step, when a restore does not pass it. -/
def pause? (interpreter : Interpreter) : Option Status :=
  interpreter.currentKind?.bind StepKind.pause?

theorem pause?_eq_some (waits : interpreter.pause? = some status) :
    ∃ story step, interpreter.story = some story ∧ story.step? interpreter.step = some step ∧
      step.kind.pause? = some status := by
  simp only [pause?, currentKind?] at waits
  obtain ⟨kind, current, pauses⟩ := Option.bind_eq_some_iff.1 waits
  obtain ⟨step, found, rfl⟩ := Option.map_eq_some_iff.1 current
  simp only [currentStep?] at found
  obtain ⟨story, running, position⟩ := Option.bind_eq_some_iff.1 found
  exact ⟨story, step, running, position, pauses⟩

/-- A story that waits is resumed at its place from every record of this place. -/
theorem Sound.resumeFrom_place {limits : StorySettings} {other : Interpreter} {snapshot : Snapshot}
    (sound : interpreter.Sound content settings) (target : other.Sound content limits)
    (room : 0 < limits.maxAutoSteps) (waits : interpreter.pause? = some status)
    (unit : interpreter.unitId? = some snapshot.unitId) (step : snapshot.step = interpreter.step)
    (callStack : snapshot.callStack = interpreter.callStack.reverse) :
    (other.resumeFrom snapshot).result = .ok status ∧
      (other.resumeFrom snapshot).after.place = interpreter.place ∧
      (other.resumeFrom snapshot).after.state = other.state.touch := by
  obtain ⟨story, current, running, position, pauses⟩ := pause?_eq_some waits
  obtain ⟨source, delivered, named⟩ := sound.delivered running
  have same : snapshot.unitId = story.id := by
    simp only [unitId?] at unit
    rw [running] at unit
    exact (Option.some.inj unit).symm
  obtain ⟨units, screen, restoreParts, resumed⟩ := target.resumeFrom_suspended room delivered
    named same (step ▸ position) pauses
  rw [resumed]
  refine ⟨rfl, ?_, rfl⟩
  change (some story.id, min snapshot.step story.steps.length, snapshot.callStack.reverse) = _
  simp only [place, unitId?]
  rw [step, callStack, List.reverse_reverse, running,
    Nat.min_eq_left (Nat.le_of_lt (step?_lt position))]
  rfl

end Interpreter

end VisualNovel
