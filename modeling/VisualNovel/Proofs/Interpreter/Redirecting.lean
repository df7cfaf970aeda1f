import VisualNovel.Proofs.Interpreter.Requests

/-!
# Redirections that fail

A host may redirect a story that waits. When the target is neither a label nor a unit that can be
loaded, the story halts at the step that waited, which has been performed, and a retry performs
this step once more. It waits again as it did before, and its own assignment has been made twice.
-/

namespace VisualNovel

namespace StepKind

/-- What the story waits for at a step. -/
def waits? : StepKind → Option Status
  | .titles card => some (.titles card.durationMs?)
  | kind => kind.pause?

/-- The assignment that a step makes when it is shown. -/
def assignment? : StepKind → Option String
  | .dialogue line => line.assignment
  | .titles card => card.assignment
  | _ => none

end StepKind

namespace Interpreter

variable {content : Content} {settings : StorySettings} {interpreter after start : Interpreter}
variable {story : StoryUnit} {step : Step} {target : String} {cause : ContentError}

/-! ## Room for a step

A story that may perform no step never waits. So the limit of a story that waits leaves room for a
step. -/

/-- Nothing that a step showed is on screen, not under injected lines either. -/
def Bare (interpreter : Interpreter) : Prop :=
  interpreter.base.status.isWaiting = false

theorem base_status (done : interpreter.continuations = []) :
    interpreter.base.status = interpreter.status := by
  simp only [Interpreter.base]
  rw [done]
  rfl

/-- A story that does not wait and has nothing left to do is bare. -/
theorem Bare.of_resting (done : interpreter.continuations = [])
    (resting : interpreter.status.isWaiting = false) : interpreter.Bare := by
  simp only [Bare]
  rw [base_status done]
  exact resting

/-- A run that may perform no step leaves nothing on screen. -/
theorem run_bare (limit : start.settings.maxAutoSteps = 0) (done : start.continuations = []) :
    start.run.after.Bare := by
  apply run_induction
    (fun _ reached => reached.settings.maxAutoSteps = 0 ∧ reached.continuations = [])
    fun outcome => outcome.after.Bare
  · intro dispatched reached next after none round
    obtain ⟨limit, done⟩ := none
    cases round with
    | returned current exhausted returned =>
        have moved := (returnToCaller_moved returned).1
        constructor
        · rw [moved.settings]
          exact limit
        · exact moved.continuations.trans done
    | passed current found below effect => omega
    | jumped current found below jumped => omega
  · intro dispatched reached outcome none ending
    obtain ⟨limit, done⟩ := none
    cases ending with
    | completed => rfl
    | limited => exact .of_resting done rfl
    | paused current found below pause => omega
    | failed same =>
        rcases same with rfl | rfl | rfl
        · exact .of_resting done rfl
        · exact .of_resting done rfl
        · exact .of_resting done rfl
  · exact ⟨limit, done⟩

/-- A bare story is not timed. -/
theorem Bare.untimed (bare : interpreter.Bare) (settled : interpreter.Settled) :
    interpreter.timer = none ∧ interpreter.effectPending = false := by
  apply isTimed_eq_false
  cases timed : interpreter.isTimed with
  | false => rfl
  | true =>
      obtain ⟨durationMs, waiting⟩ := settled.coherent.timed timed
      simp only [Bare] at bare
      rw [waiting] at bare
      cases bare

/-- A bare story shows neither a choice nor a question. -/
theorem Bare.status_ne (bare : interpreter.Bare) (settled : interpreter.Settled) (status : Status)
    (waiting : status.isWaiting = true) (other : status ≠ .dialogue) :
    interpreter.status ≠ status := by
  intro same
  have top : interpreter.isInterrupted = false := by
    cases covered : interpreter.isInterrupted with
    | false => rfl
    | true => exact absurd (same ▸ settled.coherent.interrupted covered) other
  simp only [Bare] at bare
  rw [base_uncovered top] at bare
  change interpreter.status.isWaiting = false at bare
  rw [same, waiting] at bare
  cases bare

/-- An advance takes an injected line off a bare story, or leaves it as it is. -/
theorem Bare.advance (bare : interpreter.Bare) : interpreter.advance.after.Bare := by
  cases top : interpreter.isInterrupted with
  | true =>
      obtain ⟨screen, status, left, stack⟩ := isInterrupted_eq_true top
      simp only [Bare, Interpreter.base] at bare
      rw [stack] at bare
      rw [advance_uncover stack]
      exact bare
  | false =>
      have resting := bare
      simp only [Bare] at resting
      rw [base_uncovered top] at resting
      have stays : interpreter.advance.after = interpreter := by
        simp only [Interpreter.advance]
        split
        · rename_i stack
          simp only [isInterrupted] at top
          rw [stack] at top
          cases top
        · cases waiting : interpreter.status with
          | dialogue | titles =>
              change interpreter.status.isWaiting = false at resting
              rw [waiting] at resting
              cases resting
          | _ => rfl
      rw [stays]
      exact bare

theorem Bare.restart (bare : interpreter.Bare) (limit : interpreter.settings.maxAutoSteps = 0)
    (id : Option String) : (interpreter.restart id).after.Bare := by
  simp only [Interpreter.restart]
  split
  · rename_i failed
    rw [fetchUnit_error failed]
    exact bare
  · rename_i fetched
    obtain ⟨units, -, rfl⟩ := fetchUnit_ok fetched
    exact run_bare limit rfl

theorem Bare.goto (bare : interpreter.Bare) (limit : interpreter.settings.maxAutoSteps = 0)
    (target : String) : (interpreter.goto target).after.Bare := by
  simp only [Interpreter.goto]
  split
  · exact bare
  · simp only [redirect]
    split
    · rename_i jumped
      have moved := (jump_moved jumped).1
      apply run_bare
      · rw [moved.settings]
        exact limit
      · exact moved.continuations
    · rename_i failed
      rw [jump_error failed]
      exact .of_resting rfl rfl

theorem Bare.retry (bare : interpreter.Bare) (settled : interpreter.Settled)
    (limit : interpreter.settings.maxAutoSteps = 0) : interpreter.retry.after.Bare := by
  simp only [Interpreter.retry]
  split
  · rename_i halted
    exact run_bare limit (settled.idle (isWaiting_of_isHalted halted)).continuations
  · exact bare

theorem Bare.resumeFrom (bare : interpreter.Bare) (limit : interpreter.settings.maxAutoSteps = 0)
    (snapshot : Snapshot) : (interpreter.resumeFrom snapshot).after.Bare := by
  simp only [Interpreter.resumeFrom]
  split
  · rename_i failed
    rw [fetchUnit_error failed]
    exact bare
  · rename_i fetched
    obtain ⟨units, -, rfl⟩ := fetchUnit_ok fetched
    exact run_bare limit rfl

/-- No operation puts anything of a step on screen when no step may be performed. -/
theorem Bare.perform (bare : interpreter.Bare) (settled : interpreter.Settled)
    (limit : interpreter.settings.maxAutoSteps = 0) (operation : Operation) :
    (operation.perform interpreter).Bare := by
  have untimed := bare.untimed settled
  have still : ∀ token, interpreter.fireTimer token = interpreter.stay := by
    intro token
    simp only [fireTimer]
    rw [untimed.1]
  cases operation with
  | loadUnit id =>
      obtain ⟨units, same⟩ := fetchUnit_units interpreter id
      change (interpreter.fetchUnit id).2.Bare
      rw [same]
      exact bare
  | loadCharacters ids =>
      obtain ⟨state, visible, events, same⟩ := loadCharacters_eq interpreter ids
      change (interpreter.loadCharacters ids).2.Bare
      rw [same]
      exact bare
  | start id => exact bare.restart limit (some id)
  | advance => exact bare.advance
  | goto target => exact bare.goto limit target
  | retry => exact bare.retry settled limit
  | restart id => exact bare.restart limit id
  | fireTimer token =>
      change (interpreter.fireTimer token).after.Bare
      rw [still]
      exact bare
  | tick now =>
      change (interpreter.tick now).after.Bare
      simp only [tick]
      rw [untimed.1]
      exact bare
  | acknowledgeEffect =>
      change interpreter.acknowledgeEffect.after.Bare
      simp only [acknowledgeEffect]
      rw [untimed.2]
      exact bare
  | submitInput answer =>
      have quiet := bare.status_ne settled .input rfl (by intro same; cases same)
      change (interpreter.submitInput answer).after.Bare
      simp only [submitInput]
      rw [if_pos quiet]
      exact bare
  | select index =>
      have quiet := bare.status_ne settled .choice rfl (by intro same; cases same)
      change (interpreter.select index).after.Bare
      simp only [select]
      rw [if_pos quiet]
      exact bare
  | resumeFrom snapshot => exact bare.resumeFrom limit snapshot
  | endStory | reset => rfl
  | inject | pauseAudio | resumeAudio | drainEvents | edit | pass => exact bare

/-- A host that allows no step reaches bare stories only. -/
theorem performAll_bare (content : Content) (none : settings.maxAutoSteps = 0)
    (operations : List Operation) :
    (Operation.performAll (.new content settings) operations).Bare := by
  have keeps : ∀ (interpreter : Interpreter) (operation : Operation),
      (interpreter.Sound content settings ∧ interpreter.Settled ∧ interpreter.Bare) →
      (operation.perform interpreter).Sound content settings ∧
        (operation.perform interpreter).Settled ∧ (operation.perform interpreter).Bare := by
    intro interpreter operation kept
    obtain ⟨sound, settled, bare⟩ := kept
    have limits : interpreter.settings = settings := sound.limits
    have limit : interpreter.settings.maxAutoSteps = 0 := by rw [limits, none]
    constructor
    · exact sound.perform operation
    · constructor
      · exact perform_settled interpreter operation settled
      · exact bare.perform settled limit operation
  have idle : Idle (.new content settings) := ⟨rfl, rfl, rfl, rfl⟩
  have bare : Bare (.new content settings) := rfl
  have begins := And.intro (new_sound content settings) (And.intro (idle.settled rfl) bare)
  exact (Operation.performAll_induction keeps _ begins operations).2.2

/-- The limit of a story that a host brought to wait leaves room for a step. -/
theorem Reachable.room (reachable : interpreter.Reachable content settings)
    (waiting : interpreter.base.status.isWaiting = true) : 0 < settings.maxAutoSteps := by
  apply Nat.pos_of_ne_zero
  intro none
  obtain ⟨operations, rfl⟩ := reachable
  have bare := performAll_bare content none operations
  simp only [Bare] at bare
  rw [bare] at waiting
  cases waiting

/-! ## A step that waits again -/

/-- A story that waits stands at a step that waits. -/
theorem Settled.waits (settled : interpreter.Settled)
    (waiting : interpreter.base.status.isWaiting = true) :
    ∃ kind status, interpreter.currentKind? = some kind ∧ kind.waits? = some status := by
  have coherent := settled.coherent
  cases shown : interpreter.base.status with
  | dialogue =>
      rcases (coherent.dialogue shown).2 with ⟨line, current, -⟩ | ⟨offer, -, -, -, current, -⟩
      · exact ⟨.dialogue line, .dialogue, current, rfl⟩
      · exact ⟨.choice offer, .choice, current, rfl⟩
  | titles durationMs =>
      obtain ⟨card, -, current, -⟩ := coherent.titles durationMs shown
      exact ⟨.titles card, .titles card.durationMs?, current, rfl⟩
  | input =>
      obtain ⟨path, text, -, current, -⟩ := coherent.input shown
      exact ⟨.input path text, .input, current, rfl⟩
  | choice =>
      obtain ⟨offer, -, current, -⟩ := coherent.choice shown
      exact ⟨.choice offer, .choice, current, rfl⟩
  | notStarted | completed | halted =>
      rw [shown] at waiting
      cases waiting

/-- A step that waits makes its own assignment each time it is performed, and leaves the story at
its place. -/
theorem dispatch_waits {status : Status} (fresh : interpreter.restoring = false)
    (waits : step.kind.waits? = some status) :
    ∃ after, interpreter.dispatch step = (.ok (.suspend status), after) ∧
      after.state = (interpreter.assignOptional step.kind.assignment?).state ∧
      after.story = interpreter.story ∧ after.step = interpreter.step ∧
      after.callStack = interpreter.callStack := by
  cases kind : step.kind with
  | dialogue line =>
      rw [kind] at waits
      cases waits
      have standing := (assignOptional_backstage interpreter line.assignment).toStanding
      obtain ⟨screen, entry, -, -, shown⟩ := showDialogue_fresh fresh line
      refine ⟨(interpreter.showDialogue line).2, ?_, ?_⟩
      · simp only [dispatch]
        rw [kind]
        exact showDialogue_eq interpreter line
      · rw [shown]
        exact ⟨rfl, standing.story, standing.step, standing.callStack⟩
  | titles card =>
      rw [kind] at waits
      cases waits
      have standing := (assignOptional_backstage interpreter card.assignment).toStanding
      refine ⟨(interpreter.showTitles card).2, ?_, ?_⟩
      · simp only [dispatch]
        rw [kind]
        dsimp only
        rw [fresh]
        rfl
      · simp only [showTitles]
        cases card.durationMs? with
        | none => exact ⟨rfl, standing.story, standing.step, standing.callStack⟩
        | some durationMs => exact ⟨rfl, standing.story, standing.step, standing.callStack⟩
  | input path text =>
      rw [kind] at waits
      cases waits
      refine ⟨(interpreter.showInput path text).2, ?_, rfl, rfl, rfl, rfl⟩
      simp only [dispatch]
      rw [kind]
      rfl
  | choice offer =>
      rw [kind] at waits
      cases waits
      refine ⟨(interpreter.showChoice offer).2, ?_, rfl, rfl, rfl, rfl⟩
      simp only [dispatch]
      rw [kind]
      rfl
  | _ =>
      rw [kind] at waits
      cases waits

/-- A retry at a step that waits performs this step again. -/
theorem retry_waits {status : Status} (halted : interpreter.status.isHalted = true)
    (fresh : interpreter.restoring = false) (running : interpreter.story = some story)
    (position : story.step? interpreter.step = some step)
    (room : 0 < interpreter.settings.maxAutoSteps) (waits : step.kind.waits? = some status) :
    ∃ after, interpreter.retry = ⟨.ok status, after⟩ ∧
      after.state = (interpreter.assignOptional step.kind.assignment?).state ∧
      after.story = interpreter.story ∧ after.step = interpreter.step ∧
      after.callStack = interpreter.callStack := by
  obtain ⟨after, dispatched, state, kept⟩ := dispatch_waits fresh waits
  have ran := run_suspended running position room dispatched
  refine ⟨{ after with status }, ?_, state, kept⟩
  simp only [retry]
  rw [if_pos halted, ran]
  rfl

/-- A story that is redirected to what cannot be loaded halts at its step. -/
theorem goto_lost (running : interpreter.story = some story)
    (unlabelled : story.labelIndex? target = none)
    (misses : interpreter.Misses cause (.unit target)) :
    interpreter.goto target =
      { interpreter.clearDisplay with continuations := [], restoring := false }.haltAtStep
        cause := by
  let bare : Interpreter := { interpreter with continuations := [], restoring := false }
  have current : bare.story = some story := running
  have lost : bare.Misses cause (.unit target) := ⟨misses.unknown, misses.lost⟩
  have jumped := jump_lost current unlabelled lost
  simp only [goto, redirect]
  rw [if_neg (by rw [running]; exact Bool.false_ne_true), jumped]
  rfl

end Interpreter

open Interpreter

/-- A redirection that fails is not undone by a retry when the step of the story makes an
assignment. A story that waits, and is redirected to what is neither a label nor a unit that can be
loaded, halts at the step that waits, with its state as it was. A retry shows this step again, and
makes its assignment once more; a step without an assignment leaves the state as it was. -/
theorem goto_lost_retry (content : Content) (settings : StorySettings) (before : Interpreter)
    (reachable : before.Reachable content settings) (story : StoryUnit) (target : String)
    (cause : ContentError) (waiting : before.base.status.isWaiting = true)
    (running : before.story = some story) (unlabelled : story.labelIndex? target = none)
    (lost : content.storyUnit target = .error cause) :
    ∃ kind status halted after, before.currentKind? = some kind ∧ kind.waits? = some status ∧
      before.goto target = ⟨.error (.step story.id before.step cause), halted⟩ ∧
      halted.status.isHalted = true ∧ halted.place = before.place ∧ halted.state = before.state ∧
      halted.retry = ⟨.ok status, after⟩ ∧ after.place = before.place ∧
      after.currentKind? = some kind ∧
      after.state = (before.assignOptional kind.assignment?).state := by
  have misses := reachable.sound.supplied.misses lost
  have room := reachable.room waiting
  obtain ⟨kind, status, current, waits⟩ := reachable.settled.waits waiting
  obtain ⟨step, found, same⟩ := Option.map_eq_some_iff.1 current
  subst same
  have redirected := goto_lost running unlabelled misses
  -- Only the display and what was left to do differ from the story that waited.
  let halted : Interpreter :=
    ({ before.clearDisplay with continuations := [], restoring := false }.haltAtStep cause).after
  have ended : halted.status.isHalted = true := rfl
  have fresh : halted.restoring = false := rfl
  have again : halted.story = some story := running
  have position : story.step? halted.step = some step :=
    (currentStep?_eq running).symm.trans found
  have limits : halted.settings = settings := reachable.sound.limits
  obtain ⟨after, retried, state, story', step', callStack⟩ :=
    retry_waits ended fresh again position (limits ▸ room) waits
  have named : before.unitId?.getD "" = story.id := by
    simp only [unitId?]
    rw [running]
    rfl
  have stands : after.place = before.place := by
    simp only [place, unitId?]
    rw [story', step', callStack]
    rfl
  have shows : after.currentKind? = some step.kind := by
    simp only [currentKind?, currentStep?]
    rw [story', step']
    exact current
  have assigned : after.state = (before.assignOptional step.kind.assignment?).state := by
    rw [state]
    cases step.kind.assignment? <;> rfl
  refine ⟨step.kind, status, halted, after, current, waits, ?_, rfl, rfl, rfl, retried, stands,
    shows, assigned⟩
  rw [redirected, ← named]
  rfl

/-- Content whose only unit puts a box into another one. -/
def boxContent : Content :=
  (Library.empty.addUnit ⟨"start", [⟨none, .dialogue ⟨none, "You put the box into another one.",
    some "global.box.inside = global.box", []⟩⟩]⟩).toContent

/-- A story with a box in another one. -/
def boxStart : Interpreter :=
  Operation.performAll (.new boxContent .standard) [.start "start"]

/-- A story that is redirected to nowhere and retried has a box in a box in another one. -/
theorem goto_lost_retry_box :
    (boxStart.state.read? "global.box.inside.inside").isSome = false ∧
      ∃ halted after,
        boxStart.goto "nowhere" =
          ⟨.error (.step "start" 0 (.notFound .storyUnit "nowhere")), halted⟩ ∧
        halted.retry = ⟨.ok .dialogue, after⟩ ∧ after.place = boxStart.place ∧
        (after.state.read? "global.box.inside.inside").isSome = true := by
  have reachable : boxStart.Reachable boxContent .standard := ⟨[.start "start"], rfl⟩
  obtain ⟨kind, status, halted, after, current, waits, redirected, -, -, -, retried, place, -,
    state⟩ := goto_lost_retry boxContent .standard boxStart reachable _ "nowhere" _ rfl rfl rfl rfl
  cases current
  cases waits
  refine ⟨?_, halted, after, redirected, retried, place, ?_⟩
  · decide +kernel
  · rw [state]
    decide +kernel

end VisualNovel
