import VisualNovel.Proofs.Audio
import VisualNovel.Proofs.Interpreter.Layers
import VisualNovel.Proofs.Interpreter.Resuming

/-!
# Snapshots of resumed stories

A story that waits and is resumed from its snapshot has this snapshot again, but for the log, of
which it keeps what fits its own limit. The number of shown parts comes back because the part that
is shown next always is one of the line of the current step.
-/

namespace VisualNovel.Interpreter

variable {content : Content} {settings limits : StorySettings}
variable {interpreter after other : Interpreter} {step : Step} {status : Status}

/-! ## Shown parts -/

/-- The part that is shown next is one of the current line. -/
theorem Layered.nextPart?_lt {current : Option StepKind} {timed : Bool} {screen : Screen}
    {left : List Continuation} {line : Dialogue} {next : Nat}
    (layered : Layered current timed screen status left) (kind : current = some (.dialogue line))
    (found : left.findSome? Continuation.nextPart? = some next) : next < line.parts.length := by
  induction left generalizing screen status with
  | nil => cases found
  | cons entry left ih =>
      cases entry with
      | interjection covered waiting => exact ih layered.2 found
      | choiceActions remaining =>
          have fits : Fits current timed screen status (.choiceActions remaining :: left) := layered
          cases fits with
          | actions offered =>
              rw [kind] at offered
              cases offered
      | dialogueParts position =>
          have fits : Fits current timed screen status (.dialogueParts position :: left) := layered
          cases fits with
          | parts same shown below =>
              rw [kind] at same
              cases same
              cases found
              exact below

/-- A story that was resumed with the shown parts of another one shows them. -/
theorem Settled.shownParts?_left (settled : interpreter.Settled)
    (before : interpreter.currentStep? = some step) (same : after.currentStep? = some step)
    (left : after.continuations = step.kind.left (interpreter.shownParts?.getD 0)) :
    after.shownParts? = interpreter.shownParts? := by
  cases kind : step.kind with
  | dialogue line =>
      have current : interpreter.currentKind? = some (.dialogue line) := by
        simp only [currentKind?]
        rw [before, ← kind]
        rfl
      have below : ∀ next, interpreter.continuations.findSome? Continuation.nextPart? = some next →
          next < line.parts.length :=
        fun next found => Layered.nextPart?_lt settled current found
      rw [kind] at left
      simp only [shownParts?] at left ⊢
      rw [same, left, before]
      simp only [Option.map_some, kind]
      cases line.parts.isEmpty with
      | true => rfl
      | false =>
          simp only [Bool.false_eq_true, ↓reduceIte, Option.getD_some]
          change some ((List.findSome? _ (line.left _)).getD _) = _
          cases next : interpreter.continuations.findSome? Continuation.nextPart? with
          | none => simp [Dialogue.left]
          | some position =>
              have fits := below position next
              have shown : min position line.parts.length = position := by omega
              simp [Dialogue.left, shown, fits, Continuation.nextPart?]
  | _ =>
      simp only [shownParts?]
      rw [before, same]
      simp only [Option.map_some, kind]

/-! ## Scenes and streams -/

/-- The scene of an interpreter is found again under its identifier. -/
theorem Sound.restoredScene_eq (sound : interpreter.Sound content settings)
    (target : other.Sound content limits)
    (scenes : ∀ {id scene}, content.scene id = .ok scene → scene.id = id) :
    other.restoredScene (interpreter.scene.map Scene.id) = interpreter.scene := by
  have source : other.content = content := target.source
  simp only [restoredScene]
  rw [source]
  cases current : interpreter.scene with
  | none => rfl
  | some scene =>
      obtain ⟨id, delivered⟩ : ∃ id, content.scene id = .ok scene := World.Sound.scene sound current
      simp only [Option.map_some, Option.bind_some]
      rw [scenes delivered, delivered]
      rfl

/-- The streams of an interpreter that repeat are put back as they were. -/
theorem Sound.restoredAudio_streams (sound : interpreter.Sound content settings)
    (other : Interpreter) :
    (other.restoredAudio interpreter.audio.loopingStreams).streams =
      interpreter.audio.streams.filter fun entry => entry.2.looping := by
  simp only [restoredAudio]
  rw [AudioRegistry.loopingStreams_filter, AudioRegistry.insertAll_streams]
  exact AudioRegistry.ofPairs_loopingStreams (World.Sound.streams sound) (World.Sound.keyed sound)

/-! ## Snapshots -/

/-- A snapshot holds the place, the cast on screen, the streams that repeat and the log. -/
theorem snapshot_place {snapshot : Snapshot} (taken : interpreter.snapshot = .ok snapshot) :
    interpreter.place = (some snapshot.unitId, snapshot.step, snapshot.callStack.reverse) ∧
      interpreter.visible = snapshot.visible ∧
      interpreter.audio.loopingStreams = snapshot.audio ∧
      snapshot.history = some interpreter.history.entries := by
  cases running : interpreter.story with
  | none =>
      simp only [Interpreter.snapshot] at taken
      rw [running] at taken
      cases taken
  | some story =>
      simp only [place, unitId?]
      rw [snapshot_eq running taken, running, List.reverse_reverse]
      exact ⟨rfl, rfl, rfl, rfl⟩

/-- An interpreter that holds what another one had saved, about to perform the saved step again. -/
structure Replaced (interpreter other : Interpreter) (step : Step) (placed : Interpreter) :
    Prop where
  current : placed.currentStep? = some step := by rfl
  restoring : placed.restoring = true := by rfl
  parts : placed.restoreParts = interpreter.shownParts?.getD 0 := by rfl
  continuations : placed.continuations = [] := by rfl
  state : placed.state = other.state.touch := by rfl

/-- A story is resumed from a snapshot by performing the saved step again, when this step waits. -/
theorem Sound.resumeFrom_replaced {snapshot : Snapshot} {kind : StepKind}
    (sound : interpreter.Sound content settings) (target : other.Sound content limits)
    (room : 0 < limits.maxAutoSteps) (current : interpreter.currentKind? = some kind)
    (taken : interpreter.snapshot = .ok snapshot) :
    ∃ step placed, step.kind = kind ∧ Replaced interpreter other step placed ∧
      ∀ {status after}, placed.dispatch step = (.ok (.suspend status), after) →
        other.resumeFrom snapshot = after.wait status := by
  obtain ⟨step, stands, rfl⟩ := Option.map_eq_some_iff.1 current
  obtain ⟨story, running, position⟩ := Option.bind_eq_some_iff.1 stands
  obtain ⟨source, delivered, named⟩ := sound.delivered running
  have held := snapshot_eq running taken
  have found : story.step? snapshot.step = some step := by
    rw [held]
    exact position
  obtain ⟨units, resumes⟩ :=
    target.resumeFrom_waits room delivered named (by rw [held]) found
  refine ⟨step, { other with units }.placed story snapshot, rfl, { current := ?_, parts := ?_ },
    resumes⟩
  · change story.step? (min snapshot.step story.steps.length) = some step
    rw [Nat.min_eq_left (Nat.le_of_lt (step?_lt found))]
    exact found
  · rw [held]
    rfl

/-- A story that is resumed from the snapshot of a story that waits has this snapshot, but for the
log. -/
theorem Sound.resumeFrom_snapshot {snapshot : Snapshot} (sound : interpreter.Sound content settings)
    (settled : interpreter.Settled) (target : other.Sound content limits)
    (room : 0 < limits.maxAutoSteps) (waits : interpreter.pause? = some status)
    (taken : interpreter.snapshot = .ok snapshot)
    (shown : ∀ id ∈ interpreter.visible, (other.state.character? id).isSome = true)
    (scenes : ∀ {id scene}, content.scene id = .ok scene → scene.id = id)
    (lines : List HistoryEntry) :
    ∃ after, other.resumeFrom { snapshot with history := some lines } = ⟨.ok status, after⟩ ∧
      after.state = other.state.touch ∧ after.scene = interpreter.scene ∧
      after.snapshot = .ok { snapshot with
        history := some (History.newest (max limits.historyLimit 1) lines) } := by
  obtain ⟨story, step, running, position, pauses⟩ := pause?_eq_some waits
  obtain ⟨source, delivered, named⟩ := sound.delivered running
  have held := snapshot_eq running taken
  have unit : { snapshot with history := some lines }.unitId = story.id := by rw [held]
  have place : snapshot.step = interpreter.step := by rw [held]
  have found : story.step? { snapshot with history := some lines }.step = some step :=
    place ▸ position
  obtain ⟨units, screen, restoreParts, resumed⟩ :=
    target.resumeFrom_suspended room delivered named unit found pauses
  rw [resumed]
  refine ⟨_, rfl, rfl, ?_, ?_⟩
  · change other.restoredScene snapshot.scene = _
    rw [held]
    exact sound.restoredScene_eq target scenes
  · have within : min snapshot.step story.steps.length = snapshot.step :=
      Nat.min_eq_left (Nat.le_of_lt (step?_lt found))
    have before : interpreter.currentStep? = some step := by
      simp only [currentStep?]
      rw [running]
      exact position
    have bounded : other.history.Bounded := World.Sound.history target
    have limit : other.history.limit = max limits.historyLimit 1 := World.Sound.limit target
    apply congrArg Except.ok (_ : Snapshot.mk _ _ _ _ _ _ _ _ = Snapshot.mk _ _ _ _ _ _ _ _)
    rw [Snapshot.mk.injEq]
    refine ⟨unit.symm, within, List.reverse_reverse _, ?_, ?_, ?_, ?_, ?_⟩
    · change snapshot.visible.filter _ = snapshot.visible
      rw [held]
      exact List.filter_eq_self.2 shown
    · change (other.restoredScene snapshot.scene).map Scene.id = snapshot.scene
      rw [held]
      exact congrArg _ (sound.restoredScene_eq target scenes)
    · change some (other.history.replace lines).entries = _
      rw [bounded.replace_entries, limit]
    · change (other.restoredAudio snapshot.audio).loopingStreams = snapshot.audio
      rw [held]
      exact AudioRegistry.loopingStreams_of_filter (sound.restoredAudio_streams other)
    · have parts : snapshot.dialoguePart = interpreter.shownParts? := by rw [held]
      rw [parts]
      apply settled.shownParts?_left before
      · change story.step? (min snapshot.step story.steps.length) = some step
        rw [within]
        exact found
      · rfl

end VisualNovel.Interpreter
