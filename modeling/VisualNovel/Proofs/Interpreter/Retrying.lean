import VisualNovel.Proofs.Interpreter.Position
import VisualNovel.Proofs.Interpreter.Snapshots
import VisualNovel.Proofs.State.Contents

/-!
# Retrying a halted story and loading it

A retry performs the steps of a halted story on, and a load passes the first of them without
repeating what they do to the scene, the cast and the audio, and without title cards. Both come to
the same as long as a retry finds no step of these kinds: they run in lockstep, and differ in the
units that are loaded, in the log and in whether a line applies its assignment.
-/

namespace VisualNovel

/-- Whether steps of the kind set the stage. A restore passes them. -/
def StepKind.isStaging : StepKind → Bool
  | .scene _ => true
  | .show _ => true
  | .hide _ => true
  | .play _ _ => true
  | .stopStream _ => true
  | .stopAllStreams => true
  | .titles _ => true
  | _ => false

namespace Interpreter

variable {content : Content} {settings : StorySettings} {first second : Interpreter}

/-! ## Alike interpreters -/

/-- Two stories stand at the same place, with the same scene, cast and repeated streams. -/
structure Alike (first second : Interpreter) : Prop where
  position : second.position = first.position
  scene : second.scene = first.scene
  visible : second.visible = first.visible
  streams : second.audio.loopingStreams = first.audio.loopingStreams

/-- Two interpreters that run in lockstep. The second one restores for at least as long as the first
one. -/
structure Twins (content : Content) (first second : Interpreter) : Prop extends
    Alike first second where
  supplied : first.Supplied content
  twin : second.Supplied content
  settings : second.settings = first.settings
  state : first.state.SameContents second.state
  restoring : first.restoring = true → second.restoring = true

/-- Two operations end alike, with the same result and status. -/
structure EndAlike (first second : Outcome) : Prop where
  result : second.result = first.result
  status : second.after.status = first.after.status
  after : Alike first.after second.after

/-- Two steps in lockstep. -/
inductive Paired (content : Content) : Dispatched → Dispatched → Prop where
  | next {first second : Interpreter} :
      Twins content first second → Paired content (.ok .next, first) (.ok .next, second)
  | jumped {first second : Interpreter} :
      Twins content first second → Paired content (.ok .jumped, first) (.ok .jumped, second)
  | suspended (status : Status) {first second : Interpreter} :
      Alike first second →
      Paired content (.ok (.suspend status), first) (.ok (.suspend status), second)
  | completed {first second : Interpreter} :
      Alike first second → Paired content (.ok .complete, first) (.ok .complete, second)
  | failed (cause : ContentError) {first second : Interpreter} :
      Alike first second → Paired content (.error cause, first) (.error cause, second)

/-- Two rounds in lockstep. -/
inductive TurnAlike (content : Content) : Turn → Turn → Prop where
  | performed {first second : Interpreter} :
      Twins content first second → TurnAlike content (.performed first) (.performed second)
  | returned {first second : Interpreter} :
      Twins content first second → TurnAlike content (.returned first) (.returned second)
  | stopped {first second : Outcome} :
      EndAlike first second → TurnAlike content (.stopped first) (.stopped second)
  | ended {first second : Outcome} :
      EndAlike first second → TurnAlike content (.ended first) (.ended second)

theorem Alike.story (alike : Alike first second) : second.story = first.story :=
  congrArg Position.story alike.position

theorem Alike.step (alike : Alike first second) : second.step = first.step :=
  congrArg Position.step alike.position

theorem Alike.callStack (alike : Alike first second) : second.callStack = first.callStack :=
  congrArg Position.callStack alike.position

/-- What changes neither the place nor the stage on either side keeps both alike. -/
theorem Alike.change {before after : Interpreter} (alike : Alike first second)
    (one : Alike first before) (other : Alike second after) : Alike before after where
  position := other.position.trans (alike.position.trans one.position.symm)
  scene := other.scene.trans (alike.scene.trans one.scene.symm)
  visible := other.visible.trans (alike.visible.trans one.visible.symm)
  streams := other.streams.trans (alike.streams.trans one.streams.symm)

theorem Alike.refl (interpreter : Interpreter) : Alike interpreter interpreter :=
  ⟨rfl, rfl, rfl, rfl⟩

/-! ## Endings -/

theorem Alike.halt (alike : Alike first second) (error : StoryError) :
    EndAlike (first.halt error) (second.halt error) :=
  ⟨rfl, rfl, { alike with }⟩

theorem Alike.haltAtStep (alike : Alike first second) (cause : ContentError) :
    EndAlike (first.haltAtStep cause) (second.haltAtStep cause) := by
  simp only [Interpreter.haltAtStep, unitId?]
  rw [alike.story, alike.step]
  exact alike.halt _

theorem Alike.wait (alike : Alike first second) (status : Status) :
    EndAlike (first.wait status) (second.wait status) :=
  ⟨rfl, rfl, { alike with }⟩

theorem complete_alike (interpreter : Interpreter) :
    Alike interpreter interpreter.complete.after := by
  simp only [Interpreter.complete]
  split <;> exact ⟨rfl, rfl, rfl, rfl⟩

theorem Alike.complete (alike : Alike first second) : EndAlike first.complete second.complete :=
  ⟨rfl, rfl, alike.change (complete_alike first) (complete_alike second)⟩

/-! ## Moving in lockstep -/

/-- Both load a unit, or fail to load it for the same reason. -/
theorem Twins.fetchUnit (twins : Twins content first second) (id : String) :
    (∃ cause, first.fetchUnit id = (.error cause, first) ∧
        second.fetchUnit id = (.error cause, second)) ∨
      ∃ story units others, content.unit? id = some story ∧
        first.fetchUnit id = (.ok story, { first with units }) ∧
        second.fetchUnit id = (.ok story, { second with units := others }) ∧
        Twins content { first with units } { second with units := others } := by
  cases delivered : content.storyUnit id with
  | error cause =>
      exact .inl ⟨cause, twins.supplied.fetchUnit_lost delivered,
        twins.twin.fetchUnit_lost delivered⟩
  | ok source =>
      have loaded : content.unit? id = some { source with id } :=
        Content.unit?_eq_some.2 ⟨source, delivered, rfl⟩
      obtain ⟨units, one, supplied⟩ := twins.supplied.fetchUnit loaded
      obtain ⟨others, two, twin⟩ := twins.twin.fetchUnit loaded
      exact .inr ⟨_, units, others, loaded, one, two, { twins with supplied, twin }⟩

theorem Twins.clearDisplay (twins : Twins content first second) :
    Twins content first.clearDisplay second.clearDisplay :=
  { twins with supplied := { twins.supplied with }, twin := { twins.twin with } }

/-- Both go to another step of the unit. -/
theorem Twins.goes (twins : Twins content first second) (step : Nat) :
    Twins content { first with step } { second with step } :=
  { twins with
    position := by
      simp only [Interpreter.position]
      rw [twins.story, twins.callStack]
    supplied := { twins.supplied with }
    twin := { twins.twin with } }

/-- Both enter a unit that can be loaded. -/
theorem Twins.enters {story : StoryUnit} {id : String} (twins : Twins content first second)
    (loaded : content.unit? id = some story) (step : Nat) (callStack : List CallFrame) :
    Twins content { first with story := some story, step, callStack }
      { second with story := some story, step, callStack } :=
  { twins with
    position := rfl
    supplied := twins.supplied.enters loaded rfl rfl rfl
    twin := twins.twin.enters loaded rfl rfl rfl }

theorem Twins.jump (twins : Twins content first second) (target : String) :
    Paired content (first.jump target) (second.jump target) := by
  have cleared := twins.clearDisplay
  simp only [Interpreter.jump]
  rw [cleared.story]
  cases running : first.clearDisplay.story with
  | none => exact .failed _ cleared.toAlike
  | some story =>
      dsimp only
      cases story.labelIndex? target with
      | some position =>
          have goes := cleared.goes position
          rw [cleared.story, running] at goes
          exact .jumped goes
      | none =>
          rcases cleared.fetchUnit target with
            ⟨cause, one, two⟩ | ⟨next, units, others, loaded, one, two, grown⟩
          · rw [one, two]
            exact .failed cause cleared.toAlike
          · rw [one, two]
            dsimp only
            rw [cleared.step, cleared.callStack]
            exact .jumped (grown.enters loaded 0 _)

/-- What a return comes to in lockstep. -/
inductive Returned (content : Content) (first second : Interpreter) :
    Dispatched → Dispatched → Prop where
  | completed : Returned content first second (.ok .complete, first) (.ok .complete, second)
  | jumped {one two : Interpreter} :
      Twins content one two → Returned content first second (.ok .jumped, one) (.ok .jumped, two)
  | failed (cause : ContentError) :
      Returned content first second (.error cause, first) (.error cause, second)

theorem Twins.returnToCaller (twins : Twins content first second) :
    Returned content first second first.returnToCaller second.returnToCaller := by
  simp only [Interpreter.returnToCaller]
  rw [twins.callStack]
  cases first.callStack with
  | nil => exact .completed
  | cons frame callStack =>
      dsimp only
      rcases twins.fetchUnit frame.unitId with
        ⟨cause, one, two⟩ | ⟨caller, units, others, loaded, one, two, grown⟩
      · rw [one, two]
        exact .failed cause
      · rw [one, two]
        exact .jumped (grown.clearDisplay.enters loaded frame.step callStack)

theorem Returned.paired {one two : Dispatched} (returned : Returned content first second one two)
    (alike : Alike first second) : Paired content one two := by
  cases returned with
  | completed => exact .completed alike
  | jumped twins => exact .jumped twins
  | failed cause => exact .failed cause alike

/-! ## Steps in lockstep -/

/-- A line leaves the place and the stage as they are. -/
theorem showDialogue_alike (interpreter : Interpreter) (line : Dialogue) :
    Alike interpreter (interpreter.showDialogue line).2 := by
  cases restoring : interpreter.restoring with
  | true =>
      obtain ⟨screen, -, same⟩ := showDialogue_restoring restoring line
      rw [same]
      exact ⟨rfl, rfl, rfl, rfl⟩
  | false =>
      obtain ⟨screen, entry, -, -, same⟩ := showDialogue_fresh restoring line
      rw [same]
      cases line.assignment <;> exact ⟨rfl, rfl, rfl, rfl⟩

theorem Twins.assign (twins : Twins content first second) (expression : String) :
    Twins content (first.assign expression) (second.assign expression) :=
  { twins with
    supplied := { twins.supplied with }
    twin := { twins.twin with }
    state := StateTree.assigned_contents expression twins.state }

theorem Twins.settled (twins : Twins content first second) :
    Twins content { first with restoring := false } { second with restoring := false } :=
  { twins with
    supplied := { twins.supplied with }
    twin := { twins.twin with }
    restoring := fun restoring => restoring }

theorem Twins.unlessRestoring (twins : Twins content first second)
    (restoring : first.restoring = true) (change : Interpreter → Interpreter) :
    Paired content (first.unlessRestoring change) (second.unlessRestoring change) := by
  simp only [Interpreter.unlessRestoring]
  rw [restoring, twins.restoring restoring]
  exact .next twins

/-- A step that both perform keeps them in lockstep, unless it sets the stage behind a retry. -/
theorem Twins.dispatch (twins : Twins content first second) (step : Step)
    (unstaged : first.restoring = false → step.kind.isStaging = false) :
    Paired content (first.dispatch step) (second.dispatch step) := by
  have passes : step.kind.isStaging = true → first.restoring = true := by
    intro staging
    cases restoring : first.restoring with
    | true => rfl
    | false =>
        rw [unstaged restoring] at staging
        cases staging
  cases kind : step.kind with
  | assign expression =>
      simp only [Interpreter.dispatch, kind]
      exact .next (twins.assign expression)
  | scene name =>
      have restoring := passes (by rw [kind]; rfl)
      simp only [Interpreter.dispatch, kind]
      rw [restoring, twins.restoring restoring]
      split <;> exact .next twins
  | «show» character =>
      simp only [Interpreter.dispatch, kind]
      exact twins.unlessRestoring (passes (by rw [kind]; rfl)) _
  | hide character =>
      simp only [Interpreter.dispatch, kind]
      exact twins.unlessRestoring (passes (by rw [kind]; rfl)) _
  | play channel cue =>
      simp only [Interpreter.dispatch, kind]
      exact twins.unlessRestoring (passes (by rw [kind]; rfl)) _
  | stopStream stream =>
      simp only [Interpreter.dispatch, kind]
      exact twins.unlessRestoring (passes (by rw [kind]; rfl)) _
  | stopAllStreams =>
      simp only [Interpreter.dispatch, kind]
      exact twins.unlessRestoring (passes (by rw [kind]; rfl)) _
  | dialogue line =>
      simp only [Interpreter.dispatch, kind]
      rw [showDialogue_eq first, showDialogue_eq second]
      exact .suspended _
        (twins.change (showDialogue_alike first line) (showDialogue_alike second line))
  | titles card =>
      have restoring := passes (by rw [kind]; rfl)
      simp only [Interpreter.dispatch, kind]
      rw [restoring, twins.restoring restoring]
      exact .next twins.settled
  | input path text =>
      simp only [Interpreter.dispatch, kind]
      exact .suspended _ { twins.toAlike with }
  | choice offer =>
      simp only [Interpreter.dispatch, kind]
      exact .suspended _ { twins.toAlike with }
  | goto target =>
      simp only [Interpreter.dispatch, kind]
      exact twins.jump target
  | back =>
      simp only [Interpreter.dispatch, kind]
      exact twins.returnToCaller.paired twins.toAlike
  | finish =>
      simp only [Interpreter.dispatch, kind]
      exact twins.settled.returnToCaller.paired twins.settled.toAlike

/-! ## Runs in lockstep -/

theorem Paired.afterStep {one two : Dispatched} (paired : Paired content one two) :
    TurnAlike content (afterStep one) (afterStep two) := by
  cases paired with
  | @next first second twins =>
      have goes := twins.goes (first.step + 1)
      simp only [Interpreter.afterStep]
      rw [twins.step]
      exact .performed goes
  | jumped twins => exact .performed twins
  | suspended status alike => exact .stopped (alike.wait status)
  | completed alike => exact .stopped alike.complete
  | failed cause alike => exact .stopped (alike.haltAtStep cause)

/-- A round that both take keeps them in lockstep, or ends both runs alike. -/
theorem Twins.turn (twins : Twins content first second) (steps : Nat)
    (unstaged : ∀ step, first.currentStep? = some step → steps < first.settings.maxAutoSteps →
      first.restoring = false → step.kind.isStaging = false) :
    TurnAlike content (first.turn steps) (second.turn steps) := by
  simp only [Interpreter.turn]
  rw [twins.story, twins.step, twins.settings]
  cases running : first.story with
  | none => exact .ended twins.complete
  | some story =>
      dsimp only
      cases found : story.step? first.step with
      | none =>
          dsimp only
          have returned := twins.returnToCaller
          generalize first.returnToCaller = one at returned
          generalize second.returnToCaller = two at returned
          cases returned with
          | completed => exact .ended twins.complete
          | jumped moved => exact .returned moved
          | failed cause => exact .ended (twins.haltAtStep cause)
      | some step =>
          dsimp only
          split
          · exact .ended (twins.halt _)
          · rename_i below
            have current : first.currentStep? = some step := by
              simp only [currentStep?]
              rw [running]
              exact found
            exact (twins.dispatch step (unstaged step current (Nat.not_le.1 below))).afterStep

/-- A run that performs no step that sets the stage, unless it restores itself. -/
def Unstaged (start : Interpreter) : Prop :=
  ∀ {rounds steps reached step}, Reaches start rounds steps reached →
    reached.currentStep? = some step → steps < reached.settings.maxAutoSteps →
    reached.restoring = false → step.kind.isStaging = false

/-- The second of two runs in lockstep follows a round that the first one takes. -/
theorem Twins.follows {rounds steps : Nat} {reached other : Interpreter} {turned : Turn}
    (twins : Twins content reached other) (unstaged : first.Unstaged)
    (reaches : Reaches first rounds steps reached) (turn : reached.turn steps = turned) :
    ∃ moved, other.turn steps = moved ∧ TurnAlike content turned moved := by
  subst turn
  exact ⟨_, rfl, twins.turn steps fun step => unstaged reaches⟩

theorem Twins.reaches {rounds steps : Nat} {reached : Interpreter}
    (twins : Twins content first second) (unstaged : first.Unstaged)
    (reaches : Reaches first rounds steps reached) :
    ∃ other, Reaches second rounds steps other ∧ Twins content reached other := by
  induction reaches with
  | start => exact ⟨second, .start, twins⟩
  | performed reaches turned ih =>
      obtain ⟨other, through, reached⟩ := ih
      obtain ⟨_, moved, turn⟩ := reached.follows unstaged reaches turned
      cases turn with
      | performed next => exact ⟨_, through.performed moved, next⟩
  | returned reaches turned ih =>
      obtain ⟨other, through, reached⟩ := ih
      obtain ⟨_, moved, turn⟩ := reached.follows unstaged reaches turned
      cases turn with
      | returned next => exact ⟨_, through.returned moved, next⟩

/-- Runs in lockstep end alike. -/
theorem Twins.run (twins : Twins content first second) (unstaged : first.Unstaged) :
    EndAlike first.run second.run := by
  obtain ⟨rounds, steps, course⟩ := run_course first
  generalize first.run = outcome at course
  cases course with
  | stopped reaches turned =>
      obtain ⟨other, through, reached⟩ := twins.reaches unstaged reaches
      obtain ⟨_, moved, turn⟩ := reached.follows unstaged reaches turned
      cases turn with
      | stopped alike =>
          rw [(Course.stopped through moved).run_eq]
          exact alike
  | ended reaches turned =>
      obtain ⟨other, through, reached⟩ := twins.reaches unstaged reaches
      obtain ⟨_, moved, turn⟩ := reached.follows unstaged reaches turned
      cases turn with
      | ended alike =>
          rw [(Course.ended through moved).run_eq]
          exact alike

/-! ## Halted stories -/

open Operation

variable {interpreter other : Interpreter} {story : StoryUnit} {snapshot : Snapshot}

/-- What a load finds again of a halted story: its step is one of its unit or the end of it, its
cast is in play, and its scene is known by its identifier. -/
structure Recoverable (content : Content) (interpreter : Interpreter) : Prop where
  within : ∀ story, interpreter.story = some story → interpreter.step ≤ story.steps.length
  cast : ∀ id ∈ interpreter.visible, (interpreter.state.character? id).isSome = true
  scene : ∀ scene, interpreter.scene = some scene → content.scene scene.id = .ok scene

/-- A load begins in lockstep with a retry. -/
theorem Sound.resumeFrom_twins (sound : interpreter.Sound content settings)
    (target : other.Sound content settings) (running : interpreter.story = some story)
    (recoverable : interpreter.Recoverable content)
    (same : interpreter.state.SameContents other.state)
    (taken : interpreter.snapshot = .ok snapshot) :
    ∃ placed, other.resumeFrom snapshot = placed.run ∧ placed.restoring = true ∧
      Twins content interpreter placed := by
  have held := snapshot_eq running taken
  have loaded := sound.supplied.story running
  obtain ⟨units, fetched, supplied⟩ := target.supplied.fetchUnit loaded
  have unit : snapshot.unitId = story.id := by rw [held]
  rw [← unit] at fetched
  have source : other.content = content := target.source
  have limits : other.settings = interpreter.settings :=
    (show other.settings = settings from target.limits).trans sound.limits.symm
  refine ⟨{ other with units }.placed story snapshot, resumeFrom_eq fetched, rfl, ?_⟩
  refine { settings := limits, state := same, restoring := fun _ => rfl, supplied := sound.supplied,
           twin := supplied.enters loaded rfl rfl rfl, position := ?_, scene := ?_, visible := ?_,
           streams := ?_ }
  · change Position.mk (some story) (min snapshot.step story.steps.length)
      snapshot.callStack.reverse = ⟨interpreter.story, interpreter.step, interpreter.callStack⟩
    rw [held, running, List.reverse_reverse, Nat.min_eq_left (recoverable.within story running)]
  · change (snapshot.scene.bind fun id => (other.content.scene id).toOption) = interpreter.scene
    rw [held, source]
    cases current : interpreter.scene with
    | none => rfl
    | some scene =>
        simp only [Option.map_some, Option.bind_some]
        rw [recoverable.scene scene current]
        rfl
  · change snapshot.visible.filter (fun id => (other.state.character? id).isSome) = _
    rw [held, same.eq]
    exact List.filter_eq_self.2 recoverable.cast
  · change ({ other with units }.restoredAudio snapshot.audio).loopingStreams = _
    rw [held]
    exact AudioRegistry.loopingStreams_of_filter (sound.restoredAudio_streams _)

/-- A scene that cannot be loaded fails whenever it is performed, and is passed while the story
restores. -/
theorem turn_missing_scene {step : Step} {id : Option String} {name : String} {cause : ContentError}
    (current : interpreter.currentStep? = some step) (kind : step.kind = .scene id)
    (named : id.or step.label = some name) (lost : interpreter.content.scene name = .error cause)
    (room : 0 < interpreter.settings.maxAutoSteps) :
    interpreter.turn 0 =
      if interpreter.restoring then .performed { interpreter with step := interpreter.step + 1 }
      else .stopped (interpreter.haltAtStep cause) := by
  rw [turn_step current room]
  simp only [dispatch, kind, named, changeScene, lost]
  split <;> rfl

/-- A load of a halted story comes to the same as a retry when the retry performs no step that sets
the stage. At a scene that cannot be loaded they part: the retry fails again, and the load goes on
behind the scene. -/
theorem performAll_retry_load (content : Content) (settings : StorySettings)
    (operations : List Operation) (other : Interpreter) (story : StoryUnit) (snapshot : Snapshot)
    (halted : (performAll (.new content settings) operations).status.isHalted = true)
    (running : (performAll (.new content settings) operations).story = some story)
    (recoverable : (performAll (.new content settings) operations).Recoverable content)
    (taken : (performAll (.new content settings) operations).snapshot = .ok snapshot)
    (target : other.Sound content settings)
    (same : (performAll (.new content settings) operations).state.SameContents other.state) :
    ((performAll (.new content settings) operations).Unstaged →
      EndAlike (performAll (.new content settings) operations).retry
        (other.resumeFrom snapshot)) ∧
    ∀ (step : Step) (id : Option String) (name : String) (cause : ContentError),
      (performAll (.new content settings) operations).currentStep? = some step →
      step.kind = .scene id → id.or step.label = some name → content.scene name = .error cause →
      (performAll (.new content settings) operations).restoring = false →
      0 < settings.maxAutoSteps →
      (performAll (.new content settings) operations).retry.result = .error (.step story.id
          (performAll (.new content settings) operations).step cause) ∧
        ∃ placed passed, other.resumeFrom snapshot = placed.run ∧ Reaches placed 1 1 passed ∧
          passed.position = { (performAll (.new content settings) operations).position with
            step := (performAll (.new content settings) operations).step + 1 } := by
  have sound := performAll_sound content settings operations
  generalize performAll (.new content settings) operations = interpreter at *
  obtain ⟨placed, resumed, restoring, twins⟩ :=
    sound.resumeFrom_twins target running recoverable same taken
  have retried : interpreter.retry = interpreter.run := by
    simp only [retry]
    rw [if_pos halted]
  have limits : interpreter.settings = settings := sound.limits
  constructor
  · intro unstaged
    rw [retried, resumed]
    exact twins.run unstaged
  · intro step id name cause current kind named lost fresh room
    have fails := turn_missing_scene current kind named (sound.supplied.source ▸ lost)
      (limits ▸ room)
    have again : placed.currentStep? = some step := by
      simp only [currentStep?]
      rw [twins.story, twins.step]
      exact current
    have passes := turn_missing_scene again kind named (twins.twin.source ▸ lost)
      (twins.settings ▸ limits ▸ room)
    rw [if_neg (by simp [fresh])] at fails
    rw [if_pos restoring] at passes
    refine ⟨?_, placed, _, resumed, .performed .start passes, ?_⟩
    · rw [retried, (Course.stopped .start fails).run_eq]
      simp only [haltAtStep, unitId?]
      rw [running]
      rfl
    · change Position.mk placed.story (placed.step + 1) placed.callStack = _
      rw [twins.story, twins.step, twins.callStack]
      rfl

/-- A run that fails at its first step performs no other. -/
theorem unstaged_of_stopped {step : Step} {outcome : Outcome}
    (current : interpreter.currentStep? = some step) (bare : step.kind.isStaging = false)
    (stopped : interpreter.turn 0 = .stopped outcome) : interpreter.Unstaged := by
  have only : ∀ {rounds steps reached}, Reaches interpreter rounds steps reached →
      steps = 0 ∧ reached = interpreter := by
    intro rounds steps reached reaches
    induction reaches with
    | start => exact ⟨rfl, rfl⟩
    | performed reaches turned ih =>
        obtain ⟨rfl, rfl⟩ := ih
        rw [stopped] at turned
        cases turned
    | returned reaches turned ih =>
        obtain ⟨rfl, rfl⟩ := ih
        rw [stopped] at turned
        cases turned
  intro rounds steps reached found reaches stands below fresh
  obtain ⟨rfl, rfl⟩ := only reaches
  rw [current] at stands
  cases stands
  exact bare

/-- Content whose only unit calls one that does not exist. -/
def lostContent : Content :=
  (Library.empty.addUnit ⟨"start", [⟨none, .goto "nowhere"⟩]⟩).toContent

/-- Content whose only unit begins with a scene that does not exist. -/
def voidContent : Content :=
  (Library.empty.addUnit ⟨"start", [⟨none, .scene (some "void")⟩,
    ⟨none, .dialogue ⟨none, "Behind the door.", none, []⟩⟩]⟩).toContent

/-- A story that has halted at its first step. -/
def haltedAt (content : Content) : Interpreter :=
  performAll (.new content .standard) [.start "start"]

/-- The snapshot of a story that has halted at its first step. -/
def haltedSnapshot : Snapshot where
  unitId := "start"
  step := 0
  callStack := []
  visible := []
  scene := none
  history := some []
  audio := []
  dialoguePart := none

/-- The call of a missing unit fails behind a load as it does behind a retry. A missing scene fails
behind a retry, and a load shows the line behind it. -/
theorem performAll_retry_load_lost :
    EndAlike (haltedAt lostContent).retry ((haltedAt lostContent).resumeFrom haltedSnapshot) ∧
      (haltedAt voidContent).retry.result =
        .error (.step "start" 0 (.notFound .scene "void")) ∧
      ((haltedAt voidContent).resumeFrom haltedSnapshot).result = .ok .dialogue ∧
      ((haltedAt voidContent).resumeFrom haltedSnapshot).after.step = 1 := by
  have lost : (haltedAt lostContent).Recoverable lostContent :=
    ⟨fun _ _ => Nat.zero_le _, fun _ member => (List.not_mem_nil member).elim,
      fun _ current => (Option.some_ne_none _ current.symm).elim⟩
  have void : (haltedAt voidContent).Recoverable voidContent :=
    ⟨fun _ _ => Nat.zero_le _, fun _ member => (List.not_mem_nil member).elim,
      fun _ current => (Option.some_ne_none _ current.symm).elim⟩
  have same := (performAll_retry_load lostContent .standard [.start "start"] (haltedAt lostContent)
    ⟨"start", [⟨none, .goto "nowhere"⟩]⟩ haltedSnapshot rfl rfl lost rfl
    (performAll_sound lostContent .standard _) (.refl _)).1
  have differs := (performAll_retry_load voidContent .standard [.start "start"]
    (haltedAt voidContent) _ haltedSnapshot rfl rfl void rfl
    (performAll_sound voidContent .standard _) (.refl _)).2
  refine ⟨same (unstaged_of_stopped rfl rfl rfl), ?_, rfl, rfl⟩
  exact (differs _ _ "void" _ rfl rfl rfl rfl rfl (by decide)).1

end Interpreter

end VisualNovel
