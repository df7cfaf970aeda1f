import VisualNovel.Proofs.Interpreter.Calls
import VisualNovel.Proofs.Interpreter.Coherence

/-!
# Jumps to known units

A list of units is closed when each of them can be loaded, and each target of their steps is a label
of the same unit or a unit of the list. A story that stands in such a unit, with callers among them,
stays among them: every jump and every return finds its unit. What can still fail for want of
content is a change of the scene.
-/

namespace VisualNovel

variable {content : Content} {known : List String}

/-- Each of the units can be loaded, and its steps lead to its own labels and to the units. -/
structure Content.Closed (content : Content) (known : List String) : Prop where
  loaded : ∀ id ∈ known, ∃ story, content.unit? id = some story
  targets : ∀ {id story step target}, id ∈ known → content.unit? id = some story →
    step ∈ story.steps → target ∈ step.targets →
    (story.labelIndex? target).isSome = true ∨ target ∈ known

/-- The story stands in one of the units, and its callers do too. -/
structure Position.Among (known : List String) (position : Position) : Prop where
  story : ∀ {story}, position.story = some story → story.id ∈ known
  callers : ∀ frame ∈ position.callStack, frame.unitId ∈ known

/-- A story that enters a known unit, with known callers, is among the units. -/
theorem Position.Among.enters {id : String} {story : StoryUnit} {callers : List CallFrame}
    (loaded : content.unit? id = some story) (listed : id ∈ known)
    (callable : ∀ frame ∈ callers, frame.unitId ∈ known) (step : Nat) :
    Position.Among known ⟨some story, step, callers⟩ where
  story := by
    intro other same
    cases same
    rw [Content.unit?_id loaded]
    exact listed
  callers := callable

/-- The content for want of which something failed. -/
def StoryError.cause? : StoryError → Option ContentError
  | .content cause => some cause
  | .step _ _ cause => some cause
  | _ => none

/-- The content for want of which an operation failed, if it did. -/
def Outcome.cause? (outcome : Outcome) : Option ContentError :=
  match outcome.result with
  | .ok _ => none
  | .error error => error.cause?

namespace Interpreter

variable {interpreter after start : Interpreter} {step : Step} {target : String}
variable {cause : ContentError} {outcome : Outcome} {dispatched : Nat}

/-- The story stands among the units of a content that supplies it. -/
structure Confined (content : Content) (known : List String) (interpreter : Interpreter) : Prop
    extends Supplied content interpreter where
  among : interpreter.position.Among known

/-- The current step changes to a scene that cannot be loaded. -/
def LosesScene (interpreter : Interpreter) (cause : ContentError) : Prop :=
  ∃ step name id, interpreter.currentStep? = some step ∧ step.kind = .scene name ∧
    name.or step.label = some id ∧ interpreter.content.scene id = .error cause

theorem Confined.keeps (confined : interpreter.Confined content known)
    (keeps : Keeps interpreter after) : after.Confined content known where
  toSupplied := keeps.supplied confined.toSupplied
  among := keeps.position ▸ confined.among

/-- Another step of the same unit has the same callers. -/
theorem Confined.atStep (confined : interpreter.Confined content known) (position : Nat) :
    Confined content known { interpreter with step := position } where
  toSupplied := { confined.toSupplied with }
  among := ⟨confined.among.story, confined.among.callers⟩

/-! ## Jumps and returns -/

/-- A target of the current step is found. -/
theorem Confined.jump (closed : content.Closed known)
    (confined : interpreter.Confined content known) (found : interpreter.currentStep? = some step)
    (names : target ∈ step.targets) :
    ∃ after, interpreter.jump target = (.ok .jumped, after) ∧ after.Confined content known := by
  obtain ⟨story, current, position⟩ := currentStep?_eq_some found
  have cleared : interpreter.clearDisplay.Confined content known :=
    confined.keeps ⟨rfl, rfl, rfl⟩
  cases label : story.labelIndex? target with
  | some index =>
      refine ⟨{ interpreter.clearDisplay with step := index }, ?_, cleared.atStep index⟩
      simp only [Interpreter.jump]
      rw [show interpreter.clearDisplay.story = some story from current]
      dsimp only
      rw [label]
  | none =>
      have listed : target ∈ known := by
        have leads := closed.targets (confined.among.story current) (confined.story current)
          (List.mem_of_getElem? position) names
        rw [label] at leads
        simpa using leads
      obtain ⟨next, loaded⟩ := closed.loaded target listed
      obtain ⟨after, jumped, entered⟩ :=
        confined.toSupplied.jump_calls ⟨story, next, current, label, loaded, rfl⟩
      refine ⟨after, jumped, (confined.toSupplied.jump jumped).1, ?_⟩
      rw [entered]
      apply Position.Among.enters loaded listed
      intro frame member
      rcases List.mem_cons.1 member with rfl | older
      · exact confined.among.story current
      · exact confined.among.callers frame older

/-- The innermost caller is found, or there is none. -/
theorem Confined.returnToCaller (closed : content.Closed known)
    (confined : interpreter.Confined content known) :
    ∃ flow after, interpreter.returnToCaller = (.ok flow, after) ∧
      after.Confined content known := by
  cases stack : interpreter.callStack with
  | nil =>
      refine ⟨.complete, interpreter, ?_, confined⟩
      simp only [Interpreter.returnToCaller]
      rw [stack]
  | cons frame callers =>
      have listed := confined.among.callers
      rw [show interpreter.position.callStack = frame :: callers from stack] at listed
      have here := listed frame (List.mem_cons_self ..)
      have callable := fun older member => listed older (List.mem_cons_of_mem frame member)
      obtain ⟨story, loaded⟩ := closed.loaded frame.unitId here
      obtain ⟨after, returned, entered⟩ :=
        confined.toSupplied.returnToCaller_returns ⟨frame, callers, story, stack, loaded, rfl⟩
      refine ⟨.jumped, after, returned, (confined.toSupplied.returnToCaller returned).1, ?_⟩
      rw [entered]
      exact Position.Among.enters loaded here callable frame.step

/-! ## Steps -/

/-- A step that jumps or returns does not fail. -/
theorem Confined.dispatch_moves (closed : content.Closed known)
    (confined : interpreter.Confined content known) (found : interpreter.currentStep? = some step)
    (moves : (∃ target, step.kind = .goto target) ∨ step.kind = .back ∨ step.kind = .finish) :
    ∃ flow after, interpreter.dispatch step = (.ok flow, after) ∧
      after.Confined content known := by
  rcases moves with ⟨target, kind⟩ | kind | kind
  · have names : target ∈ step.targets := by simp [Step.targets, kind]
    obtain ⟨after, jumped, kept⟩ := confined.jump closed found names
    refine ⟨.jumped, after, ?_, kept⟩
    simp only [dispatch, kind]
    exact jumped
  · simp only [dispatch, kind]
    exact confined.returnToCaller closed
  · have settled : Confined content known { interpreter with restoring := false } :=
      confined.keeps ⟨rfl, rfl, rfl⟩
    simp only [dispatch, kind]
    exact settled.returnToCaller closed

/-- A step that fails changes the scene. -/
theorem Confined.dispatch_error (closed : content.Closed known)
    (confined : interpreter.Confined content known) (found : interpreter.currentStep? = some step)
    (failed : interpreter.dispatch step = (.error cause, after)) :
    after = interpreter ∧ interpreter.LosesScene cause := by
  have still : ¬ ((∃ target, step.kind = .goto target) ∨ step.kind = .back ∨
      step.kind = .finish) := by
    intro moves
    obtain ⟨flow, reached, moved, -⟩ := confined.dispatch_moves closed found moves
    rw [failed] at moved
    cases moved
  cases kind : step.kind with
  | goto target => exact absurd (.inl ⟨target, kind⟩) still
  | back => exact absurd (.inr (.inl kind)) still
  | finish => exact absurd (.inr (.inr kind)) still
  | scene name =>
      simp only [dispatch, kind] at failed
      split at failed
      · rename_i id named
        split at failed
        · cases failed
        · simp only [changeScene] at failed
          split at failed
          · cases failed
          · rename_i lost
            cases failed
            exact ⟨rfl, step, name, id, found, kind, named, lost⟩
      · cases failed
  | titles card =>
      simp only [dispatch, kind] at failed
      split at failed <;> cases failed
  | dialogue line =>
      simp only [dispatch, kind] at failed
      rw [showDialogue_eq] at failed
      cases failed
  | _ =>
      simp only [dispatch, kind] at failed
      cases failed

/-- A round that does not end the run stays among the units. -/
theorem Confined.round {following : Nat} (closed : content.Closed known)
    (confined : interpreter.Confined content known)
    (round : Round dispatched interpreter following after) : after.Confined content known := by
  cases round with
  | returned current exhausted returned =>
      obtain ⟨flow, reached, same, kept⟩ := confined.returnToCaller closed
      rw [returned] at same
      cases same
      exact kept
  | passed current found below effect =>
      exact (confined.keeps effect.backstage.keeps).atStep _
  | @jumped _ _ step current found below jumped =>
      have moves : (∃ target, step.kind = .goto target) ∨ step.kind = .back ∨
          step.kind = .finish := by
        have performed := dispatch_performed interpreter step
        rw [jumped] at performed
        cases performed with
        | jump kind moved => exact .inl ⟨_, kind⟩
        | back kind returned => exact .inr (.inl kind)
        | finish kind returned => exact .inr (.inr kind)
      have stands := (currentStep?_eq current).trans found
      obtain ⟨flow, reached, same, kept⟩ := confined.dispatch_moves closed stands moves
      rw [jumped] at same
      cases same
      exact kept

theorem Confined.reaches {rounds : Nat} (closed : content.Closed known)
    (confined : start.Confined content known)
    (reaches : Reaches start rounds dispatched interpreter) :
    interpreter.Confined content known := by
  induction reaches with
  | start => exact confined
  | performed reaches turned ih => exact ih.round closed (turn_performed turned)
  | returned reaches turned ih => exact ih.round closed (turn_returned turned)

end Interpreter

open Interpreter

/-! ## Outcomes -/

/-- The story is among the units, and nothing but a scene was missing. -/
structure Outcome.Safe (content : Content) (known : List String) (outcome : Outcome) : Prop where
  after : outcome.after.Confined content known
  lost : ∀ {cause}, outcome.cause? = some cause → outcome.after.LosesScene cause

/-- The outcome of a round that ends the run. -/
def Turn.outcome? : Turn → Option Outcome
  | .stopped outcome => some outcome
  | .ended outcome => some outcome
  | _ => none

namespace Interpreter

variable {interpreter after start : Interpreter} {step : Step} {target : String}
variable {outcome : Outcome} {dispatched : Nat}

theorem Confined.succeeded {status : Status} (confined : after.Confined content known) :
    Outcome.Safe content known ⟨.ok status, after⟩ where
  after := confined
  lost := nofun

theorem Confined.refused {error : StoryError} (confined : after.Confined content known)
    (other : error.cause? = none) : Outcome.Safe content known ⟨.error error, after⟩ where
  after := confined
  lost := by
    intro cause failed
    rw [show Outcome.cause? ⟨.error error, after⟩ = none from other] at failed
    cases failed

/-- A step that ends the run is safe. -/
theorem Confined.afterStep (closed : content.Closed known)
    (confined : interpreter.Confined content known) (found : interpreter.currentStep? = some step)
    (ends : (afterStep (interpreter.dispatch step)).outcome? = some outcome) :
    outcome.Safe content known := by
  generalize performed : interpreter.dispatch step = dispatched at ends
  obtain ⟨result, after⟩ := dispatched
  cases result with
  | error cause =>
      obtain ⟨rfl, lost⟩ := confined.dispatch_error closed found performed
      cases ends
      constructor
      · exact confined.keeps ⟨rfl, rfl, rfl⟩
      · intro other failed
        cases failed
        exact lost
  | ok flow =>
      cases flow with
      | suspend status =>
          have paused := confined.keeps (dispatch_suspend performed).keeps
          have waits : Keeps after (after.wait status).after := ⟨rfl, rfl, rfl⟩
          cases ends
          exact (paused.keeps waits).succeeded
      | complete =>
          have completed : after.Confined content known := by
            rcases (dispatch_complete performed).2 with rfl | rfl
            · exact confined
            · exact confined.keeps ⟨rfl, rfl, rfl⟩
          cases ends
          exact (completed.keeps (complete_keeps after)).succeeded
      | _ => cases ends

/-- The round that ends a run is safe. -/
theorem Confined.turn (closed : content.Closed known)
    (confined : interpreter.Confined content known)
    (ends : (interpreter.turn dispatched).outcome? = some outcome) :
    outcome.Safe content known := by
  cases current : interpreter.story with
  | none =>
      simp only [Interpreter.turn, current] at ends
      cases ends
      exact (confined.keeps (complete_keeps interpreter)).succeeded
  | some story =>
      cases found : story.step? interpreter.step with
      | none =>
          obtain ⟨flow, reached, returned, kept⟩ := confined.returnToCaller closed
          simp only [Interpreter.turn, current, found, returned] at ends
          cases flow with
          | complete =>
              cases ends
              exact (kept.keeps (complete_keeps reached)).succeeded
          | _ => cases ends
      | some step =>
          have stands := (currentStep?_eq current).trans found
          rcases Nat.lt_or_ge dispatched interpreter.settings.maxAutoSteps with below | reached
          · rw [turn_step stands below] at ends
            exact confined.afterStep closed stands ends
          · rw [turn_limited stands reached] at ends
            cases ends
            have halted : Keeps interpreter (interpreter.halt
              (.stepLimit interpreter.settings.maxAutoSteps)).after := ⟨rfl, rfl, rfl⟩
            exact (confined.keeps halted).refused rfl

/-- A run among the units is safe. -/
theorem Confined.run (closed : content.Closed known) (confined : start.Confined content known) :
    start.run.Safe content known := by
  obtain ⟨rounds, steps, course⟩ := run_course start
  generalize start.run = outcome at course
  cases course with
  | stopped reaches turned =>
      apply (confined.reaches closed reaches).turn closed
      rw [turned]
      rfl
  | ended reaches turned =>
      apply (confined.reaches closed reaches).turn closed
      rw [turned]
      rfl

end Interpreter

end VisualNovel
