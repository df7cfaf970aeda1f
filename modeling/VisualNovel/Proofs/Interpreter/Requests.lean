import VisualNovel.Proofs.Interpreter.Targets

/-!
# What a story asks its content for

A step that leads elsewhere asks for the unit of its target, a step that changes the scene asks for
a scene, and a return asks for the unit of the caller. A story that asks for what is missing halts
where it stands, and nothing but the display may have changed. While it is missing the story halts
again at each retry.
-/

namespace VisualNovel

/-- What a story asks its content for. -/
inductive Request where
  | unit (id : String)
  | scene (id : String)
  deriving DecidableEq

/-- What is asked for is not in the content. -/
def Content.Misses (content : Content) (cause : ContentError) : Request → Prop
  | .unit id => content.storyUnit id = .error cause
  | .scene id => content.scene id = .error cause

namespace Interpreter

variable {interpreter after : Interpreter} {story : StoryUnit} {step : Step} {target : String}
variable {request : Request} {cause : ContentError} {dispatched : Nat}

/-- What a return asks for. -/
def callerRequest? (interpreter : Interpreter) : Option Request :=
  interpreter.callStack.head?.map fun frame => .unit frame.unitId

/-- What the story asks for at its place. Behind the last step of a unit it returns. -/
def request? (interpreter : Interpreter) : Option Request :=
  interpreter.story.bind fun story =>
    match story.step? interpreter.step with
    | none => interpreter.callerRequest?
    | some step =>
      match step.kind with
      | .goto target => if (story.labelIndex? target).isSome then none else some (.unit target)
      | .scene name => if interpreter.restoring then none else (name.or step.label).map .scene
      | .back => interpreter.callerRequest?
      | .finish => interpreter.callerRequest?
      | _ => none

/-- What is asked for is missing: it is not in the content, and no unit that was loaded before. -/
structure Misses (interpreter : Interpreter) (cause : ContentError) (request : Request) : Prop where
  unknown : ∀ id, request = .unit id → Dict.get? interpreter.units id = none
  lost : interpreter.content.Misses cause request

/-- The next round asks for what is missing. -/
structure Lacks (interpreter : Interpreter) (dispatched : Nat) (request : Request)
    (cause : ContentError) : Prop where
  asks : interpreter.request? = some request
  misses : interpreter.Misses cause request
  room : interpreter.currentStep?.isSome = true → dispatched < interpreter.settings.maxAutoSteps

/-- The interpreter in which a step fails. A jump has cleared the display before, and the last step
of a story ends the passing of steps. -/
def disturbed (interpreter : Interpreter) : Interpreter :=
  match interpreter.currentKind? with
  | some (.goto _) => interpreter.clearDisplay
  | some .finish => { interpreter with restoring := false }
  | _ => interpreter

/-! ## Loads that fail -/

/-- What the content of a story does not have is missing. -/
theorem Supplied.misses {content : Content} {id : String} (supplied : interpreter.Supplied content)
    (lost : content.storyUnit id = .error cause) : interpreter.Misses cause (.unit id) := by
  constructor
  · intro other same
    cases same
    cases known : Dict.get? interpreter.units id with
    | none => rfl
    | some story =>
        obtain ⟨source, delivered, -⟩ := Content.unit?_eq_some.1 (supplied.units known)
        rw [lost] at delivered
        cases delivered
  · rw [supplied.source]
    exact lost

theorem fetchUnit_lost {id : String} (misses : interpreter.Misses cause (.unit id)) :
    interpreter.fetchUnit id = (.error cause, interpreter) := by
  have lost : interpreter.content.storyUnit id = .error cause := misses.lost
  simp only [fetchUnit]
  rw [misses.unknown id rfl]
  dsimp only
  rw [lost]

/-- A jump to what is neither a label nor a unit that can be loaded clears the display. -/
theorem jump_lost (running : interpreter.story = some story)
    (unlabelled : story.labelIndex? target = none)
    (misses : interpreter.Misses cause (.unit target)) :
    interpreter.jump target = (.error cause, interpreter.clearDisplay) := by
  have current : interpreter.clearDisplay.story = some story := running
  have cleared : interpreter.clearDisplay.Misses cause (.unit target) :=
    ⟨misses.unknown, misses.lost⟩
  simp only [jump]
  rw [current]
  dsimp only
  rw [unlabelled]
  dsimp only
  rw [fetchUnit_lost cleared]

theorem returnToCaller_lost (asks : interpreter.callerRequest? = some request)
    (misses : interpreter.Misses cause request) :
    interpreter.returnToCaller = (.error cause, interpreter) := by
  obtain ⟨frame, top, same⟩ := Option.map_eq_some_iff.1 asks
  obtain ⟨callStack, stack⟩ := List.head?_eq_some_iff.1 top
  subst same
  simp only [returnToCaller]
  rw [stack]
  dsimp only
  rw [fetchUnit_lost misses]

theorem changeScene_lost {id : String} (misses : interpreter.Misses cause (.scene id)) :
    interpreter.changeScene id = (.error cause, interpreter) := by
  simp only [changeScene]
  rw [show interpreter.content.scene id = .error cause from misses.lost]

/-- A request names the unit of the story. -/
theorem request?_running (asks : interpreter.request? = some request) :
    ∃ story, interpreter.story = some story := by
  obtain ⟨story, running, -⟩ := Option.bind_eq_some_iff.1 asks
  exact ⟨story, running⟩

theorem request?_exhausted (running : interpreter.story = some story)
    (exhausted : story.step? interpreter.step = none) :
    interpreter.request? = interpreter.callerRequest? := by
  simp only [request?]
  rw [running, Option.bind_some, exhausted]

/-- What a step asks for. -/
theorem request?_step (running : interpreter.story = some story)
    (found : story.step? interpreter.step = some step) :
    interpreter.request? =
      match step.kind with
      | .goto target => if (story.labelIndex? target).isSome then none else some (.unit target)
      | .scene name => if interpreter.restoring then none else (name.or step.label).map .scene
      | .back => interpreter.callerRequest?
      | .finish => interpreter.callerRequest?
      | _ => none := by
  simp only [request?]
  rw [running, Option.bind_some, found]

/-- A step that asks for what is missing fails. -/
theorem dispatch_lost (running : interpreter.story = some story)
    (found : story.step? interpreter.step = some step)
    (asks : interpreter.request? = some request) (misses : interpreter.Misses cause request) :
    interpreter.dispatch step = (.error cause, interpreter.disturbed) := by
  have current : interpreter.currentKind? = some step.kind :=
    congrArg (Option.map Step.kind) ((currentStep?_eq running).trans found)
  rw [request?_step running found] at asks
  simp only [dispatch, disturbed]
  rw [current]
  cases kind : step.kind with
  | goto target =>
      simp only [kind] at asks
      split at asks
      · cases asks
      · rename_i unlabelled
        cases asks
        exact jump_lost running (Option.not_isSome_iff_eq_none.1 unlabelled) misses
  | scene name =>
      simp only [kind] at asks
      split at asks
      · cases asks
      · rename_i fresh
        obtain ⟨id, named, same⟩ := Option.map_eq_some_iff.1 asks
        subst same
        dsimp only
        rw [named]
        dsimp only
        rw [if_neg fresh]
        exact changeScene_lost misses
  | back =>
      simp only [kind] at asks
      exact returnToCaller_lost asks misses
  | finish =>
      simp only [kind] at asks
      have settled : Misses { interpreter with restoring := false } cause request :=
        ⟨misses.unknown, misses.lost⟩
      exact returnToCaller_lost asks settled
  | _ =>
      simp only [kind] at asks
      cases asks

/-- A round that asks for what is missing ends the run where the story stands. -/
theorem Lacks.turn (lacks : interpreter.Lacks dispatched request cause) :
    (interpreter.turn dispatched).outcome? = some (interpreter.disturbed.haltAtStep cause) := by
  obtain ⟨story, running⟩ := request?_running lacks.asks
  cases found : story.step? interpreter.step with
  | none =>
      have asks := lacks.asks
      rw [request?_exhausted running found] at asks
      have current : interpreter.currentKind? = none :=
        congrArg (Option.map Step.kind) ((currentStep?_eq running).trans found)
      simp only [Interpreter.turn, running, found, returnToCaller_lost asks lacks.misses, disturbed,
        current]
      rfl
  | some step =>
      have current := (currentStep?_eq running).trans found
      have below := lacks.room (Option.isSome_iff_exists.2 ⟨step, current⟩)
      rw [turn_step current below, dispatch_lost running found lacks.asks lacks.misses]
      rfl

/-- A run ends with the round that ends it. -/
theorem Reaches.run_eq {start : Interpreter} {rounds : Nat} {outcome : Outcome}
    (reaches : Reaches start rounds dispatched interpreter)
    (ends : (interpreter.turn dispatched).outcome? = some outcome) : start.run = outcome := by
  cases turned : interpreter.turn dispatched with
  | stopped last =>
      rw [turned] at ends
      cases ends
      exact (Course.stopped reaches turned).run_eq
  | ended last =>
      rw [turned] at ends
      cases ends
      exact (Course.ended reaches turned).run_eq
  | performed | returned =>
      rw [turned] at ends
      cases ends

/-! ## What a failure leaves -/

/-- The interpreter behind a load that failed, some time later and with some content. -/
def stranded (interpreter : Interpreter) (status : Status) (later : Content) (now : Instant) :
    Interpreter :=
  { interpreter.disturbed with status, content := later, clock := now }

/-- What a failure leaves behind, kind by kind. -/
theorem disturbed_cases (interpreter : Interpreter) :
    (∃ target, interpreter.currentKind? = some (.goto target) ∧
        interpreter.disturbed = interpreter.clearDisplay) ∨
      (interpreter.currentKind? = some .finish ∧
        interpreter.disturbed = { interpreter with restoring := false }) ∨
      ((∀ target, interpreter.currentKind? ≠ some (.goto target)) ∧
        interpreter.currentKind? ≠ some .finish ∧ interpreter.disturbed = interpreter) := by
  simp only [disturbed]
  split
  · rename_i target current
    exact .inl ⟨target, current, rfl⟩
  · rename_i current
    exact .inr (.inl ⟨current, rfl⟩)
  · rename_i leads ends
    exact .inr (.inr ⟨leads, ends, rfl⟩)

variable (interpreter : Interpreter) (status : Status) (later : Content) (now : Instant)

/-- A load that fails leaves the story as it stood. -/
theorem stranded_standing :
    (interpreter.stranded status later now).story = interpreter.story ∧
      (interpreter.stranded status later now).step = interpreter.step ∧
      (interpreter.stranded status later now).callStack = interpreter.callStack ∧
      (interpreter.stranded status later now).settings = interpreter.settings ∧
      (interpreter.stranded status later now).units = interpreter.units := by
  simp only [stranded, disturbed]
  split <;> exact ⟨rfl, rfl, rfl, rfl, rfl⟩

theorem stranded_currentStep? :
    (interpreter.stranded status later now).currentStep? = interpreter.currentStep? := by
  obtain ⟨story, step, -⟩ := stranded_standing interpreter status later now
  simp only [currentStep?]
  rw [story, step]

/-- A failure leaves behind what it would leave behind again. -/
theorem stranded_disturbed :
    (interpreter.stranded status later now).disturbed =
      interpreter.stranded status later now := by
  have kind : (interpreter.stranded status later now).currentKind? = interpreter.currentKind? :=
    congrArg (Option.map Step.kind) (stranded_currentStep? interpreter status later now)
  rw [disturbed, kind]
  rcases disturbed_cases interpreter with
    ⟨target, current, same⟩ | ⟨current, same⟩ | ⟨leads, ends, -⟩
  · rw [current]
    simp only [stranded]
    rw [same]
    rfl
  · rw [current]
    simp only [stranded]
    rw [same]
  · split
    · rename_i target current
      exact absurd current (leads target)
    · rename_i current
      exact absurd current ends
    · rfl

/-- A story asks for the same again. -/
theorem stranded_request? :
    (interpreter.stranded status later now).request? = interpreter.request? := by
  obtain ⟨story, step, stack, -, -⟩ := stranded_standing interpreter status later now
  have caller : (interpreter.stranded status later now).callerRequest? =
      interpreter.callerRequest? := by
    simp only [callerRequest?]
    rw [stack]
  cases running : interpreter.story with
  | none =>
      simp only [request?]
      rw [story, running]
      rfl
  | some unit =>
      have again := story.trans running
      cases found : unit.step? interpreter.step with
      | none =>
          rw [request?_exhausted running found, request?_exhausted again (step ▸ found), caller]
      | some current =>
          rw [request?_step running found, request?_step again (step ▸ found), caller]
          -- Only a scene asks whether steps are passed, and it leaves that as it is.
          cases kind : current.kind with
          | scene name =>
              have shows : interpreter.currentKind? = some (.scene name) := by
                rw [← kind]
                exact congrArg (Option.map Step.kind) ((currentStep?_eq running).trans found)
              have restoring : (interpreter.stranded status later now).restoring =
                  interpreter.restoring := by
                simp only [stranded, disturbed]
                rw [shows]
              rw [restoring]
          | _ => rfl

variable {interpreter}

/-- A retry in vain fails as the run did, and changes nothing. -/
theorem Lacks.retry (lacks : interpreter.Lacks dispatched request cause)
    (still : later.Misses cause request) {error : StoryError}
    (named : error = .step (interpreter.unitId?.getD "") interpreter.step cause) :
    (interpreter.stranded (.halted error.message) later now).retry =
      ⟨.error error, interpreter.stranded (.halted error.message) later now⟩ := by
  obtain ⟨story, step, -, settings, units⟩ :=
    stranded_standing interpreter (.halted error.message) later now
  have current := stranded_currentStep? interpreter (.halted error.message) later now
  have again : (interpreter.stranded (.halted error.message) later now).Lacks 0 request cause := by
    constructor
    · rw [stranded_request?]
      exact lacks.asks
    · constructor
      · rw [units]
        exact lacks.misses.unknown
      · exact still
    · rw [current, settings]
      intro stands
      exact Nat.zero_lt_of_lt (lacks.room stands)
  have begins : Reaches (interpreter.stranded (.halted error.message) later now) 0 0 _ := .start
  have failed := begins.run_eq again.turn
  rw [stranded_disturbed] at failed
  have halted : (interpreter.stranded (.halted error.message) later now).retry =
      (interpreter.stranded (.halted error.message) later now).run := rfl
  have unit : (interpreter.stranded (.halted error.message) later now).unitId? =
      interpreter.unitId? := by
    simp only [unitId?]
    rw [story]
  rw [halted, failed, haltAtStep, unit, step, ← named]
  rfl

end Interpreter

end VisualNovel
