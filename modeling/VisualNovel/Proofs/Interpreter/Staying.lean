import VisualNovel.Proofs.Interpreter.Targets

/-!
# Hosts that stay among known units

A host that starts the story in known units, and neither redirects nor resumes it, moves it by
advances, choices and the end of cards alone. When the units are closed the story then stays among
them, and whatever the host does fails for want of a scene at most.
-/

namespace VisualNovel

variable {content : Content} {known : List String}

/-- The host starts the story in known units only, and neither redirects nor resumes it. -/
def Policy.staying (known : List String) : Policy
  | _, .start id => id ∈ known
  | before, .restart id => (id.or before.unitId?).getD "start" ∈ known
  | _, .goto _ => False
  | _, .resumeFrom _ => False
  | _, _ => True

/-- Whether the host performs the operations one after another by a policy. -/
def Policy.Permits (policy : Policy) : Interpreter → List Operation → Prop
  | _, [] => True
  | before, operation :: operations =>
    policy before operation ∧ policy.Permits (operation.perform before) operations

namespace Operation

/-- The outcome of an operation that may run the story. -/
def outcome? (before : Interpreter) : Operation → Option Outcome
  | start id => some (before.start id)
  | advance => some before.advance
  | goto target => some (before.goto target)
  | retry => some before.retry
  | endStory => some before.endStory
  | restart id => some (before.restart id)
  | fireTimer token => some (before.fireTimer token)
  | tick now => some (before.tick now)
  | acknowledgeEffect => some before.acknowledgeEffect
  | submitInput answer => some (before.submitInput answer)
  | select index => some (before.select index)
  | inject character text => some (before.inject character text)
  | resumeFrom snapshot => some (before.resumeFrom snapshot)
  | _ => none

theorem perform_outcome? {before : Interpreter} {operation : Operation} {outcome : Outcome}
    (ran : operation.outcome? before = some outcome) :
    operation.perform before = outcome.after := by
  cases operation <;> first | (cases ran; rfl) | cases ran

end Operation

namespace Interpreter

variable {interpreter after : Interpreter} {step : Step} {target : String}

/-! ## Going on -/

theorem Confined.stepForward (closed : content.Closed known)
    (confined : interpreter.Confined content known) :
    interpreter.stepForward.Safe content known := by
  have settled : Confined content known { interpreter.clearDisplay with restoring := false } :=
    confined.keeps ⟨rfl, rfl, rfl⟩
  exact (settled.atStep (interpreter.step + 1)).run closed

/-- The story goes on at a target of the current step. -/
theorem Confined.redirect (closed : content.Closed known)
    (confined : interpreter.Confined content known) (found : interpreter.currentStep? = some step)
    (names : target ∈ step.targets) : (interpreter.redirect target).Safe content known := by
  obtain ⟨after, jumped, kept⟩ := confined.jump closed found names
  simp only [Interpreter.redirect]
  rw [jumped]
  exact kept.run closed

/-- The actions of an option lead to targets of the choice. -/
theorem Confined.runActions {actions : List ChoiceAction} (closed : content.Closed known)
    (confined : interpreter.Confined content known) (found : interpreter.currentStep? = some step)
    (names : ∀ target, .goto target ∈ actions → target ∈ step.targets) :
    (runActions actions interpreter).Safe content known := by
  induction actions generalizing interpreter with
  | nil => exact confined.stepForward closed
  | cons action actions ih =>
      have rest : ∀ target, .goto target ∈ actions → target ∈ step.targets := by
        intro target member
        exact names target (List.mem_cons_of_mem _ member)
      cases action with
      | «show» character =>
          have backstage := showCharacter_backstage interpreter character
          exact ih (confined.keeps backstage.keeps) (backstage.currentStep?.trans found) rest
      | hide character =>
          have backstage := hideCharacter_backstage interpreter character
          exact ih (confined.keeps backstage.keeps) (backstage.currentStep?.trans found) rest
      | dialogue character text =>
          apply Confined.succeeded
          exact confined.keeps ⟨rfl, rfl, rfl⟩
      | goto target =>
          exact confined.redirect closed found (names target (List.mem_cons_self ..))

theorem mem_targets {offer : Choice} {option : ChoiceOption} (kind : step.kind = .choice offer)
    (member : option ∈ offer.options) (jumps : .goto target ∈ option.actionList) :
    target ∈ step.targets := by
  simp only [Step.targets, kind, List.mem_flatMap, List.mem_filterMap]
  exact ⟨option, member, .goto target, jumps, rfl⟩

theorem currentKind?_eq_some {kind : StepKind} (current : interpreter.currentKind? = some kind) :
    ∃ step, interpreter.currentStep? = some step ∧ step.kind = kind :=
  Option.map_eq_some_iff.1 current

/-- The actions at the end of an option of the current choice are safe. -/
theorem Confined.runOption {offer : Choice} {option : ChoiceOption}
    {done remaining : List ChoiceAction} (closed : content.Closed known)
    (confined : interpreter.Confined content known)
    (current : interpreter.currentKind? = some (.choice offer)) (member : option ∈ offer.options)
    (split : option.actionList = done ++ remaining) :
    (Interpreter.runActions remaining interpreter).Safe content known := by
  obtain ⟨step, found, kind⟩ := currentKind?_eq_some current
  apply confined.runActions closed found
  intro target jumps
  apply mem_targets kind member
  rw [split]
  exact List.mem_append_right done jumps

theorem Confined.showPart (closed : content.Closed known)
    (confined : interpreter.Confined content known) (next : Nat) :
    (interpreter.showPart next).Safe content known := by
  unfold Interpreter.showPart
  split
  · split
    · exact confined.stepForward closed
    · rename_i part found
      have assigned := confined.keeps (assignOptional_backstage interpreter part.assignment).keeps
      generalize interpreter.assignOptional part.assignment = assignee at assigned
      apply Confined.succeeded
      split
      · exact assigned.keeps ⟨rfl, rfl, rfl⟩
      · exact assigned.keeps ⟨rfl, rfl, rfl⟩
  · exact confined.stepForward closed

/-- Actions that are left belong to an option of the current choice. -/
theorem Fits.choiceActions {current : Option StepKind} {timed : Bool} {screen : Screen}
    {status : Status} {remaining : List ChoiceAction} {rest : List Continuation}
    (fits : Fits current timed screen status (.choiceActions remaining :: rest)) :
    ∃ offer option done, current = some (.choice offer) ∧ option ∈ offer.options ∧
      option.actionList = done ++ remaining := by
  cases fits with
  | actions current member split lined => exact ⟨_, _, _, current, member, split⟩

/-- An advance is safe when the actions that are left belong to the current choice. -/
theorem Confined.advance (closed : content.Closed known)
    (confined : interpreter.Confined content known) (settled : interpreter.Settled) :
    interpreter.advance.Safe content known := by
  simp only [Interpreter.advance]
  split
  · apply Confined.succeeded
    exact confined.keeps ⟨rfl, rfl, rfl⟩
  · rename_i top
    split
    · exact confined.refused rfl
    · exact confined.succeeded
    · exact confined.succeeded
    · exact confined.succeeded
    · exact confined.succeeded
    · split
      · exact confined.stepForward closed
      · rename_i entry rest stack
        simp only [Settled] at settled
        rw [stack] at settled
        have popped : Confined content known { interpreter with continuations := rest } :=
          confined.keeps ⟨rfl, rfl, rfl⟩
        cases entry with
        | interjection screen status => exact absurd stack (top screen status rest)
        | dialogueParts next => exact popped.showPart closed next
        | choiceActions remaining =>
            have cleared : Confined content known
                { interpreter with continuations := rest }.clearScreen :=
              popped.keeps ⟨rfl, rfl, rfl⟩
            obtain ⟨offer, option, done, current, member, split⟩ := Fits.choiceActions settled
            exact cleared.runOption closed current member split

theorem Confined.fireTimer (closed : content.Closed known)
    (confined : interpreter.Confined content known) (settled : interpreter.Settled) (token : Nat) :
    (interpreter.fireTimer token).Safe content known := by
  simp only [Interpreter.fireTimer]
  split
  · exact confined.succeeded
  · rename_i timer armed
    have timed : interpreter.isTimed = true := by simp [isTimed, armed]
    have disarmed : Confined content known { interpreter with timer := none } :=
      confined.keeps ⟨rfl, rfl, rfl⟩
    split
    · exact confined.succeeded
    · split
      · apply Confined.succeeded
        exact disarmed.keeps ⟨rfl, rfl, rfl⟩
      · exact disarmed.advance closed (Layered.untimed settled fun _ => timed)

theorem Confined.tick (closed : content.Closed known)
    (confined : interpreter.Confined content known) (settled : interpreter.Settled)
    (now : Instant) : (interpreter.tick now).Safe content known := by
  simp only [Interpreter.tick]
  split
  · exact confined.succeeded
  · split
    · exact confined.fireTimer closed settled _
    · exact confined.succeeded

theorem Confined.acknowledgeEffect (closed : content.Closed known)
    (confined : interpreter.Confined content known) (settled : interpreter.Settled) :
    interpreter.acknowledgeEffect.Safe content known := by
  simp only [Interpreter.acknowledgeEffect]
  split
  · rename_i awaited
    have timed : interpreter.isTimed = true := by simp [isTimed, awaited]
    have acknowledged : Confined content known { interpreter with effectPending := false } :=
      confined.keeps ⟨rfl, rfl, rfl⟩
    exact acknowledged.advance closed (Layered.untimed settled fun _ => timed)
  · exact confined.succeeded

theorem Confined.submitInput (closed : content.Closed known)
    (confined : interpreter.Confined content known) (answer : String) :
    (interpreter.submitInput answer).Safe content known := by
  simp only [Interpreter.submitInput]
  split
  · exact confined.refused rfl
  · apply Confined.stepForward closed
    exact confined.keeps ⟨rfl, rfl, rfl⟩

theorem Confined.select (closed : content.Closed known)
    (confined : interpreter.Confined content known) (index : Nat) :
    (interpreter.select index).Safe content known := by
  simp only [Interpreter.select]
  split
  · exact confined.refused rfl
  · split
    · rename_i offer current
      split
      · exact confined.refused rfl
      · rename_i option chosen
        have cleared : interpreter.clearScreen.Confined content known :=
          confined.keeps ⟨rfl, rfl, rfl⟩
        have member := List.mem_of_getElem? chosen
        exact cleared.runOption closed current member (List.nil_append _).symm
    · exact confined.refused rfl

/-- A known unit is started. -/
theorem Confined.restart {id : Option String} (closed : content.Closed known)
    (confined : interpreter.Confined content known)
    (listed : (id.or interpreter.unitId?).getD "start" ∈ known) :
    (interpreter.restart id).Safe content known := by
  obtain ⟨story, loaded⟩ := closed.loaded _ listed
  obtain ⟨units, fetched, grown⟩ := confined.toSupplied.fetchUnit loaded
  simp only [Interpreter.restart]
  rw [fetched]
  apply Confined.run closed
  constructor
  · exact grown.enters loaded rfl rfl rfl
  · exact Position.Among.enters loaded listed (List.forall_mem_nil _) 0

theorem Confined.retry (closed : content.Closed known)
    (confined : interpreter.Confined content known) :
    interpreter.retry.Safe content known := by
  simp only [Interpreter.retry]
  split
  · exact confined.run closed
  · exact confined.succeeded

theorem Confined.endStory (confined : interpreter.Confined content known) :
    interpreter.endStory.Safe content known := by
  have cleared : Confined content known { interpreter.clearDisplay with continuations := [] } :=
    confined.keeps ⟨rfl, rfl, rfl⟩
  exact (cleared.keeps (complete_keeps _)).succeeded

/-! ## Every operation -/

variable {before : Interpreter} {operation : Operation} {outcome : Outcome}

/-- Every outcome is safe while the host stays among the units. -/
theorem Confined.safe (closed : content.Closed known) (confined : before.Confined content known)
    (settled : before.Settled) (staying : Policy.staying known before operation)
    (ran : operation.outcome? before = some outcome) : outcome.Safe content known := by
  cases operation with
  | start id =>
      cases ran
      exact confined.restart closed staying
  | advance =>
      cases ran
      exact confined.advance closed settled
  | goto target => cases staying
  | retry =>
      cases ran
      exact confined.retry closed
  | endStory =>
      cases ran
      exact confined.endStory
  | restart id =>
      cases ran
      exact confined.restart closed staying
  | fireTimer token =>
      cases ran
      exact confined.fireTimer closed settled token
  | tick now =>
      cases ran
      exact confined.tick closed settled now
  | acknowledgeEffect =>
      cases ran
      exact confined.acknowledgeEffect closed settled
  | submitInput answer =>
      cases ran
      exact confined.submitInput closed answer
  | select index =>
      cases ran
      exact confined.select closed index
  | inject character text =>
      cases ran
      apply Confined.succeeded
      exact confined.keeps ⟨rfl, rfl, rfl⟩
  | resumeFrom snapshot => cases staying
  | _ => cases ran

/-- Every operation of such a host keeps the story among the units. -/
theorem Confined.perform (closed : content.Closed known) (confined : before.Confined content known)
    (settled : before.Settled) (staying : Policy.staying known before operation) :
    (operation.perform before).Confined content known := by
  cases ran : operation.outcome? before with
  | some outcome =>
      rw [Operation.perform_outcome? ran]
      exact (confined.safe closed settled staying ran).after
  | none =>
      cases operation with
      | loadUnit id =>
          constructor
          · exact confined.toSupplied.fetchUnit_supplied id
          · change (before.fetchUnit id).2.position.Among known
            rw [fetchUnit_position]
            exact confined.among
      | loadCharacters ids =>
          obtain ⟨state, visible, events, same⟩ := loadCharacters_eq before ids
          change (before.loadCharacters ids).2.Confined content known
          rw [same]
          exact confined.keeps ⟨rfl, rfl, rfl⟩
      | reset =>
          exact ⟨confined.toSupplied.rested .reset, nofun, nofun⟩
      | pauseAudio | resumeAudio | drainEvents | edit change | pass now =>
          exact confined.keeps ⟨rfl, rfl, rfl⟩
      | _ => cases ran

end Interpreter

open Interpreter

/-! ## Whole runs -/

theorem Policy.permits_append {policy : Policy} {before : Interpreter}
    {past later : List Operation} :
    policy.Permits before (past ++ later) ↔
      policy.Permits before past ∧ policy.Permits (Operation.performAll before past) later := by
  induction past generalizing before with
  | nil => exact (and_iff_right trivial).symm
  | cons operation past ih =>
      change policy before operation ∧ policy.Permits _ (past ++ later) ↔
        (policy before operation ∧ policy.Permits _ past) ∧ _
      rw [ih, and_assoc]
      rfl

theorem Interpreter.Confined.performAll {before : Interpreter} {operations : List Operation}
    (closed : content.Closed known) (confined : before.Confined content known)
    (settled : before.Settled) (staying : (Policy.staying known).Permits before operations) :
    (Operation.performAll before operations).Confined content known ∧
      (Operation.performAll before operations).Settled := by
  induction operations generalizing before with
  | nil => exact ⟨confined, settled⟩
  | cons operation operations ih =>
      obtain ⟨here, later⟩ := staying
      exact ih (confined.perform closed settled here) (perform_settled before operation settled)
        later

/-- Every outcome is safe behind operations that stay among closed units. -/
theorem Content.Closed.safe {settings : StorySettings} {past later : List Operation}
    {operation : Operation} {outcome : Outcome} (closed : content.Closed known)
    (staying : (Policy.staying known).Permits (.new content settings) (past ++ operation :: later))
    (ran : operation.outcome? (Operation.performAll (.new content settings) past) =
      some outcome) : outcome.Safe content known := by
  obtain ⟨before, here, -⟩ := Policy.permits_append.1 staying
  have fresh : Confined content known (.new content settings) :=
    ⟨(new_sound content settings).supplied, nofun, nofun⟩
  have idle : Settled (.new content settings) := Idle.settled ⟨rfl, rfl, rfl, rfl⟩ rfl
  obtain ⟨confined, settled⟩ := fresh.performAll closed idle before
  exact confined.safe closed settled here ran

end VisualNovel
