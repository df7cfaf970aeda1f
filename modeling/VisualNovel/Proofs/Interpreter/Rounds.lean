import VisualNovel.Proofs.Interpreter.Steps

/-!
# The rounds of a run

A round of a run passes a step, follows a jump or a return, or ends the run. Every round that does
not end the run leaves fewer rounds.
-/

namespace VisualNovel.Interpreter

variable {interpreter after : Interpreter} {story : StoryUnit} {step : Step}

/-- One round of a run that does not end it, with the number of steps performed so far. -/
inductive Round : Nat → Interpreter → Nat → Interpreter → Prop where
  /-- The steps of the unit are used up, and its caller goes on. -/
  | returned {dispatched : Nat} {interpreter after : Interpreter} {story : StoryUnit} :
      interpreter.story = some story → story.step? interpreter.step = none →
      interpreter.returnToCaller = (.ok .jumped, after) →
      Round dispatched interpreter dispatched after
  /-- The next step follows. -/
  | passed {dispatched : Nat} {interpreter after : Interpreter} {story : StoryUnit} {step : Step} :
      interpreter.story = some story → story.step? interpreter.step = some step →
      dispatched < interpreter.settings.maxAutoSteps → Effect interpreter after →
      Round dispatched interpreter (dispatched + 1) { after with step := after.step + 1 }
  /-- The step moved the story. -/
  | jumped {dispatched : Nat} {interpreter after : Interpreter} {story : StoryUnit} {step : Step} :
      interpreter.story = some story → story.step? interpreter.step = some step →
      dispatched < interpreter.settings.maxAutoSteps →
      interpreter.dispatch step = (.ok .jumped, after) →
      Round dispatched interpreter (dispatched + 1) after

/-- The ways in which a run ends. -/
inductive Ending (dispatched : Nat) (interpreter : Interpreter) : Outcome → Prop where
  /-- There is nothing left to run. -/
  | completed :
      interpreter.story = none ∨ interpreter.callStack = [] →
      Ending dispatched interpreter interpreter.complete
  /-- Too many steps ran without a pause. -/
  | limited {step : Step} :
      interpreter.currentStep? = some step → interpreter.settings.maxAutoSteps ≤ dispatched →
      Ending dispatched interpreter
        (interpreter.halt (.stepLimit interpreter.settings.maxAutoSteps))
  /-- The step waits. -/
  | paused {story : StoryUnit} {step : Step} {status : Status} {after : Interpreter} :
      interpreter.story = some story → story.step? interpreter.step = some step →
      dispatched < interpreter.settings.maxAutoSteps → Pause interpreter step status after →
      Ending dispatched interpreter (after.wait status)
  /-- Content cannot be loaded. -/
  | failed {cause : ContentError} {after : Interpreter} :
      after = interpreter ∨ after = interpreter.clearDisplay ∨
        after = { interpreter with restoring := false } →
      Ending dispatched interpreter (after.haltAtStep cause)

/-- The rounds that are left at most behind some steps. -/
def roundsLeft (dispatched : Nat) (interpreter : Interpreter) : Nat :=
  2 * (interpreter.settings.maxAutoSteps - dispatched) + interpreter.callStack.length + 1

/-- What a jump or a return changes at most. -/
structure Moved (before after : Interpreter) : Prop where
  content : after.content = before.content := by rfl
  settings : after.settings = before.settings := by rfl
  state : after.state = before.state := by rfl
  scene : after.scene = before.scene := by rfl
  visible : after.visible = before.visible := by rfl
  audio : after.audio = before.audio := by rfl
  history : after.history = before.history := by rfl
  continuations : after.continuations = before.continuations := by rfl
  status : after.status = before.status := by rfl
  screen : after.screen = .blank := by rfl
  timer : after.timer = none := by rfl
  effectPending : after.effectPending = false := by rfl
  fresh : before.restoring = false → after.restoring = false := by exact id

theorem jump_moved {target : String} {flow : Flow}
    (jumped : interpreter.jump target = (.ok flow, after)) :
    Moved interpreter after ∧ after.callStack.length ≤ interpreter.callStack.length + 1 := by
  obtain ⟨-, story, -, ⟨position, -, rfl⟩ | ⟨-, next, units, -, rfl⟩⟩ := jump_ok jumped
  · exact ⟨{}, Nat.le_succ _⟩
  · exact ⟨{}, Nat.le_refl _⟩

theorem returnToCaller_moved (returned : interpreter.returnToCaller = (.ok .jumped, after)) :
    Moved interpreter after ∧ after.callStack.length + 1 = interpreter.callStack.length := by
  rcases returnToCaller_ok returned with ⟨flow, -⟩ | ⟨-, frame, rest, story, units, stack, -, rfl⟩
  · cases flow
  · rw [stack]
    exact ⟨{}, rfl⟩

/-- A step that moves the story adds at most one frame to the stack. -/
theorem dispatch_moved (jumped : interpreter.dispatch step = (.ok .jumped, after)) :
    Moved interpreter after ∧ after.callStack.length ≤ interpreter.callStack.length + 1 := by
  have performed := dispatch_performed interpreter step
  rw [jumped] at performed
  cases performed with
  | jump kind jumped => exact jump_moved jumped
  | back kind returned =>
      obtain ⟨moved, shorter⟩ := returnToCaller_moved returned
      exact ⟨moved, by omega⟩
  | finish kind returned =>
      obtain ⟨moved, shorter⟩ := returnToCaller_moved returned
      exact ⟨{ moved with fresh := fun _ => moved.fresh rfl }, by simp only at shorter; omega⟩

/-- Every round leaves fewer rounds. -/
theorem Round.roundsLeft_lt {dispatched next : Nat}
    (round : Round dispatched interpreter next after) :
    roundsLeft next after < roundsLeft dispatched interpreter := by
  simp only [roundsLeft]
  cases round with
  | returned current exhausted returned =>
      obtain ⟨moved, shorter⟩ := returnToCaller_moved returned
      rw [moved.settings]
      omega
  | passed current found below effect =>
      have backstage := effect.backstage
      simp only [backstage.settings, backstage.callStack]
      omega
  | jumped current found below jumped =>
      obtain ⟨moved, longer⟩ := dispatch_moved jumped
      rw [moved.settings]
      omega

/-- A run that does not restore never begins to. -/
theorem Round.fresh {dispatched next : Nat} (round : Round dispatched interpreter next after)
    (fresh : interpreter.restoring = false) : after.restoring = false := by
  cases round with
  | returned current exhausted returned => exact (returnToCaller_moved returned).1.fresh fresh
  | passed current found below effect =>
      cases effect with
      | shown id =>
          simp only [showCharacter]
          split <;> exact fresh
      | _ => first | exact fresh | rfl
  | jumped current found below jumped => exact (dispatch_moved jumped).1.fresh fresh

theorem complete_settled (interpreter : Interpreter) :
    { interpreter with restoring := false }.complete = interpreter.complete := by
  simp only [complete]
  split <;> rfl

/-! ## One round -/

theorem currentStep?_eq (current : interpreter.story = some story) :
    interpreter.currentStep? = story.step? interpreter.step := by
  simp only [currentStep?]
  rw [current]
  rfl

/-- A current step belongs to a current unit. -/
theorem currentStep?_eq_some (found : interpreter.currentStep? = some step) :
    ∃ story, interpreter.story = some story ∧ story.step? interpreter.step = some step :=
  Option.bind_eq_some_iff.1 found

variable {dispatched : Nat} {outcome : Outcome}

/-- A step is performed while the limit is not reached. -/
theorem turn_step (found : interpreter.currentStep? = some step)
    (below : dispatched < interpreter.settings.maxAutoSteps) :
    interpreter.turn dispatched = afterStep (interpreter.dispatch step) := by
  obtain ⟨story, current, position⟩ := currentStep?_eq_some found
  simp only [turn, current, position]
  exact if_neg (Nat.not_le.2 below)

/-- No step is performed at the limit. -/
theorem turn_limited (found : interpreter.currentStep? = some step)
    (reached : interpreter.settings.maxAutoSteps ≤ dispatched) :
    interpreter.turn dispatched =
      .ended (interpreter.halt (.stepLimit interpreter.settings.maxAutoSteps)) := by
  obtain ⟨story, current, position⟩ := currentStep?_eq_some found
  simp only [turn, current, position]
  exact if_pos reached

/-- What a round is. -/
inductive Taken (dispatched : Nat) (interpreter : Interpreter) : Turn → Prop where
  | performed {after : Interpreter} :
      Round dispatched interpreter (dispatched + 1) after →
      Taken dispatched interpreter (.performed after)
  | returned {after : Interpreter} :
      Round dispatched interpreter dispatched after →
      Taken dispatched interpreter (.returned after)
  | stopped {step : Step} {outcome : Outcome} :
      interpreter.currentStep? = some step → dispatched < interpreter.settings.maxAutoSteps →
      Ending dispatched interpreter outcome → Taken dispatched interpreter (.stopped outcome)
  | ended {outcome : Outcome} :
      Ending dispatched interpreter outcome → Taken dispatched interpreter (.ended outcome)

theorem afterStep_taken (current : interpreter.story = some story)
    (found : story.step? interpreter.step = some step)
    (below : dispatched < interpreter.settings.maxAutoSteps) :
    Taken dispatched interpreter (afterStep (interpreter.dispatch step)) := by
  have position := (currentStep?_eq current).trans found
  generalize performed : interpreter.dispatch step = result
  obtain ⟨result, after⟩ := result
  cases result with
  | error cause => exact .stopped position below (.failed (dispatch_error performed))
  | ok flow =>
      cases flow with
      | next => exact .performed (.passed current found below (dispatch_next performed))
      | jumped => exact .performed (.jumped current found below performed)
      | suspend status =>
          exact .stopped position below (.paused current found below (dispatch_suspend performed))
      | complete =>
          obtain ⟨empty, rfl | rfl⟩ := dispatch_complete performed
          · exact .stopped position below (.completed (.inr empty))
          · simp only [afterStep]
            rw [complete_settled]
            exact .stopped position below (.completed (.inr empty))

theorem turn_taken (dispatched : Nat) (interpreter : Interpreter) :
    Taken dispatched interpreter (interpreter.turn dispatched) := by
  simp only [turn]
  split
  · rename_i absent
    exact .ended (.completed (.inl absent))
  · rename_i story current
    split
    · rename_i exhausted
      split
      · rename_i after returned
        rcases returnToCaller_ok returned with ⟨-, empty, rfl⟩ | ⟨flow, -⟩
        · exact .ended (.completed (.inr empty))
        · cases flow
      · rename_i flow after unfinished returned
        rcases returnToCaller_ok returned with ⟨rfl, -⟩ | ⟨rfl, -⟩
        · exact absurd rfl unfinished
        · exact .returned (.returned current exhausted returned)
      · rename_i cause after returned
        cases returnToCaller_error returned
        exact .ended (.failed (.inl rfl))
    · rename_i step found
      have position := (currentStep?_eq current).trans found
      split
      · rename_i reached
        exact .ended (.limited position reached)
      · rename_i room
        exact afterStep_taken current found (Nat.not_le.1 room)

theorem turn_performed (turned : interpreter.turn dispatched = .performed after) :
    Round dispatched interpreter (dispatched + 1) after := by
  have taken := turn_taken dispatched interpreter
  rw [turned] at taken
  cases taken with
  | performed round => exact round

theorem turn_returned (turned : interpreter.turn dispatched = .returned after) :
    Round dispatched interpreter dispatched after := by
  have taken := turn_taken dispatched interpreter
  rw [turned] at taken
  cases taken with
  | returned round => exact round

theorem turn_stopped (turned : interpreter.turn dispatched = .stopped outcome) :
    dispatched < interpreter.settings.maxAutoSteps ∧ Ending dispatched interpreter outcome := by
  have taken := turn_taken dispatched interpreter
  rw [turned] at taken
  cases taken with
  | stopped found below ending => exact ⟨below, ending⟩

theorem turn_ended (turned : interpreter.turn dispatched = .ended outcome) :
    Ending dispatched interpreter outcome := by
  have taken := turn_taken dispatched interpreter
  rw [turned] at taken
  cases taken with
  | ended ending => exact ending

theorem Round.settings {next : Nat} (round : Round dispatched interpreter next after) :
    after.settings = interpreter.settings := by
  cases round with
  | returned current exhausted returned => exact (returnToCaller_moved returned).1.settings
  | passed current found below effect => exact effect.backstage.settings
  | jumped current found below jumped => exact (dispatch_moved jumped).1.settings

/-- A round that performs a step is taken below the limit. -/
theorem Round.below (round : Round dispatched interpreter (dispatched + 1) after) :
    dispatched < interpreter.settings.maxAutoSteps := by
  cases round with
  | passed current found below effect => exact below
  | jumped current found below jumped => exact below

end VisualNovel.Interpreter
