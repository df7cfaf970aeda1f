import VisualNovel.Proofs.Interpreter.Interludes
import VisualNovel.Proofs.Interpreter.Plans

/-!
# Operations that are refused

An operation that does not fit what the story waits for, or that cannot load the unit it starts
from, is refused in front of its first change. What a host may call at any time, the timers and the
acknowledgement of an effect, reaches an advance only with a title card on screen, which an advance
does not refuse.
-/

namespace VisualNovel

variable {before : Interpreter} {plan : Plan} {error : StoryError}

/-- Whether an error says that an operation was refused, and not that the story failed. -/
def StoryError.isRefusal : StoryError → Bool
  | .step _ _ _ => false
  | .stepLimit _ => false
  | _ => true

/-- What is refused leaves the interpreter as it was. -/
def Plan.Careful (before : Interpreter) : Plan → Prop
  | refuse _ after => after = before
  | _ => True

namespace Interpreter

variable {interpreter : Interpreter}

/-! ## Runs -/

/-- A run fails at a step or at the limit of steps. -/
theorem run_isRefusal (failed : interpreter.run.result = .error error) :
    error.isRefusal = false := by
  have ends : ∀ error, interpreter.run.result = .error error → error.isRefusal = false := by
    apply run_induction (fun _ _ => True)
      (fun outcome => ∀ error, outcome.result = .error error → error.isRefusal = false)
    · intro dispatched reached next after holds round
      trivial
    · intro dispatched reached outcome holds ending error failed
      cases ending with
      | completed | paused => cases failed
      | limited | failed =>
          cases failed
          rfl
    · trivial
  exact ends error failed

/-! ## Going on -/

theorem redirectPlan_careful (interpreter before : Interpreter) (target : String) :
    (interpreter.redirectPlan target).Careful before := by
  simp only [redirectPlan]
  split <;> trivial

theorem actionsPlan_careful (actions : List ChoiceAction) (interpreter before : Interpreter) :
    (actionsPlan actions interpreter).Careful before := by
  induction actions generalizing interpreter with
  | nil => trivial
  | cons action actions ih =>
      cases action with
      | «show» character => exact ih (interpreter.showCharacter character)
      | hide character => exact ih (interpreter.hideCharacter character)
      | dialogue character text => trivial
      | goto target => exact redirectPlan_careful interpreter before target

theorem resumePlan_careful (interpreter before : Interpreter) (continuation : Continuation) :
    (interpreter.resumePlan continuation).Careful before := by
  cases continuation with
  | dialogueParts next =>
      simp only [resumePlan, partPlan]
      split
      · split <;> trivial
      · trivial
  | choiceActions remaining => exact actionsPlan_careful remaining interpreter.clearScreen before
  | interjection screen status => trivial

theorem leftPlan_careful (interpreter before : Interpreter) (left : List Continuation) :
    (interpreter.leftPlan left).Careful before := by
  cases left with
  | nil => trivial
  | cons continuation rest => exact resumePlan_careful _ before continuation

/-- An advance is refused in front of any story, with nothing injected on top. -/
theorem advancePlan_careful
    (same : interpreter.isInterrupted = false → interpreter.status = .notStarted →
      interpreter = before) : interpreter.advancePlan.Careful before := by
  simp only [advancePlan]
  split
  · trivial
  · rename_i bare
    have top : interpreter.isInterrupted = false := by
      cases covered : interpreter.isInterrupted with
      | true =>
          obtain ⟨screen, status, left, stack⟩ := isInterrupted_eq_true covered
          exact absurd stack (bare screen status left)
      | false => rfl
    split
    · rename_i idle
      exact same top idle
    · exact leftPlan_careful interpreter before interpreter.continuations
    · exact leftPlan_careful interpreter before interpreter.continuations
    · trivial

/-! ## Operations -/

theorem restartPlan_careful (interpreter : Interpreter) (id : Option String) :
    (interpreter.restartPlan id).Careful interpreter := by
  simp only [restartPlan]
  split
  · rename_i failed
    exact fetchUnit_error failed
  · trivial

theorem resumptionPlan_careful (interpreter : Interpreter) (snapshot : Snapshot) :
    (interpreter.resumptionPlan snapshot).Careful interpreter := by
  simp only [resumptionPlan]
  split
  · rename_i failed
    exact fetchUnit_error failed
  · trivial

theorem gotoPlan_careful (interpreter : Interpreter) (target : String) :
    (interpreter.gotoPlan target).Careful interpreter := by
  simp only [gotoPlan]
  split
  · rfl
  · exact redirectPlan_careful _ interpreter target

theorem retryPlan_careful (interpreter : Interpreter) :
    interpreter.retryPlan.Careful interpreter := by
  simp only [retryPlan]
  split <;> trivial

/-- A story whose card goes on by itself was started. -/
theorem Settled.begun (settled : interpreter.Settled) (timed : interpreter.isTimed = true) :
    interpreter.status ≠ .notStarted := by
  intro idle
  have resting : interpreter.status.isWaiting = false := by rw [idle]; rfl
  have untimed := (settled.idle resting).isTimed
  rw [timed] at untimed
  cases untimed

theorem Settled.firePlan_careful (settled : interpreter.Settled) (token : Nat) :
    (interpreter.firePlan token).Careful interpreter := by
  simp only [firePlan]
  split
  · trivial
  · rename_i timer armed
    have timed : interpreter.isTimed = true := by
      simp only [isTimed]
      rw [armed]
      rfl
    split
    · trivial
    · split
      · trivial
      · apply advancePlan_careful
        intro top idle
        exact absurd idle (settled.begun timed)

theorem Settled.tickPlan_careful (settled : interpreter.Settled) (now : Instant) :
    (interpreter.tickPlan now).Careful interpreter := by
  simp only [tickPlan]
  split
  · trivial
  · split
    · exact settled.firePlan_careful _
    · trivial

theorem Settled.acknowledgePlan_careful (settled : interpreter.Settled) :
    interpreter.acknowledgePlan.Careful interpreter := by
  simp only [acknowledgePlan]
  split
  · rename_i awaited
    have timed : interpreter.isTimed = true := by
      simp only [isTimed]
      rw [awaited]
      exact Bool.or_true _
    apply advancePlan_careful
    intro top idle
    exact absurd idle (settled.begun timed)
  · trivial

theorem submitPlan_careful (interpreter : Interpreter) (answer : String) :
    (interpreter.submitPlan answer).Careful interpreter := by
  simp only [submitPlan]
  split
  · rfl
  · trivial

theorem selectPlan_careful (interpreter : Interpreter) (index : Nat) :
    (interpreter.selectPlan index).Careful interpreter := by
  simp only [selectPlan]
  split
  · rfl
  · split
    · split
      · rfl
      · exact actionsPlan_careful _ _ interpreter
    · rfl

/-- What an operation of a host refuses it leaves as it was. -/
theorem Settled.plan_careful {operation : Operation} (settled : before.Settled)
    (planned : operation.plan? before = some plan) : plan.Careful before := by
  cases operation with
  | start id =>
      cases planned
      exact restartPlan_careful before (some id)
  | advance =>
      cases planned
      apply advancePlan_careful
      intro top idle
      rfl
  | goto target =>
      cases planned
      exact gotoPlan_careful before target
  | retry =>
      cases planned
      exact retryPlan_careful before
  | restart id =>
      cases planned
      exact restartPlan_careful before id
  | fireTimer token =>
      cases planned
      exact settled.firePlan_careful token
  | tick now =>
      cases planned
      exact settled.tickPlan_careful now
  | acknowledgeEffect =>
      cases planned
      exact settled.acknowledgePlan_careful
  | submitInput answer =>
      cases planned
      exact submitPlan_careful before answer
  | select index =>
      cases planned
      exact selectPlan_careful before index
  | resumeFrom snapshot =>
      cases planned
      exact resumptionPlan_careful before snapshot
  | endStory | inject =>
      cases planned
      trivial
  | _ => cases planned

end Interpreter

open Interpreter

/-- A plan that keeps the interpreter where it refuses does so in its outcome. -/
theorem Plan.Careful.outcome_after (careful : plan.Careful before)
    (failed : plan.outcome.result = .error error) (refusal : error.isRefusal = true) :
    plan.outcome.after = before := by
  cases plan with
  | settle status after => cases failed
  | refuse error after => exact careful
  | lose cause after =>
      cases failed
      cases refusal
  | run start =>
      rw [run_isRefusal failed] at refusal
      cases refusal

/-- An advance waits with a choice or a question on screen, behind the end of the story and while it
is halted. -/
theorem Interpreter.advance_waits (top : before.isInterrupted = false)
    (waits : before.status = .choice ∨ before.status = .input ∨ before.status = .completed ∨
      before.status.isHalted = true) : before.advance = before.stay := by
  have advanced := before.advance_plan
  rw [advanced]
  simp only [advancePlan]
  split
  · rename_i stack
    simp only [isInterrupted] at top
    rw [stack] at top
    cases top
  · cases waiting : before.status with
    | choice | input | completed | halted =>
        simp only [Plan.outcome, stay]
        rw [waiting]
    | _ =>
        rw [waiting] at waits
        simp [Status.isHalted] at waits

/-- Operations that are refused change nothing. Whatever a host does in whatever state of a story,
an error other than the failure of a step or of a run leaves the interpreter as it was, all of it;
and so does an advance with a choice or a question on screen, behind the end of the story, or while
it is halted, if no injected line is on top. -/
theorem refused_unchanged (content : Content) (settings : StorySettings) (before : Interpreter)
    (reachable : before.Reachable content settings) :
    (∀ (operation : Operation) (outcome : Outcome) (error : StoryError),
      operation.outcome? before = some outcome → outcome.result = .error error →
      error.isRefusal = true → outcome.after = before) ∧
    (before.isInterrupted = false →
      before.status = .choice ∨ before.status = .input ∨ before.status = .completed ∨
        before.status.isHalted = true →
      before.advance = ⟨.ok before.status, before⟩) := by
  constructor
  · intro operation outcome error ran failed refusal
    obtain ⟨plan, planned, same⟩ := Operation.outcome?_eq_some ran
    subst same
    have careful := reachable.settled.plan_careful planned
    exact careful.outcome_after failed refusal
  · intro top waits
    exact before.advance_waits top waits

/-- A story that asks whether to leave has no sixth option, and an advance does not answer it. -/
theorem refused_unchanged_door :
    (doorStart.select 5).result = .error (.invalidChoice 5) ∧
      (doorStart.select 5).after = doorStart ∧ doorStart.advance = ⟨.ok .choice, doorStart⟩ := by
  have reachable : doorStart.Reachable doorContent .standard := ⟨[.start "start"], rfl⟩
  have unchanged := refused_unchanged doorContent .standard doorStart reachable
  constructor
  · rfl
  · constructor
    · exact unchanged.1 (.select 5) (doorStart.select 5) (.invalidChoice 5) rfl rfl rfl
    · exact unchanged.2 rfl (.inl rfl)

end VisualNovel
