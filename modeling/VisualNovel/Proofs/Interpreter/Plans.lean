import VisualNovel.Proofs.Interpreter.Staying

/-!
# What an operation comes down to

An operation of a host is refused, or succeeds at once, or halts the story because it cannot be
redirected, or prepares an interpreter and runs it. A plan says which of these it is, with the
interpreter that is run, so that what holds of runs can be said of operations.
-/

namespace VisualNovel

/-- What an operation comes down to. -/
inductive Plan where
  /-- The operation succeeds without a run. -/
  | settle (status : Status) (after : Interpreter)
  /-- The operation is refused. -/
  | refuse (error : StoryError) (after : Interpreter)
  /-- The target of a redirection cannot be loaded. -/
  | lose (cause : ContentError) (after : Interpreter)
  /-- The story runs. -/
  | run (start : Interpreter)

/-- The outcome of a plan. -/
def Plan.outcome : Plan → Outcome
  | settle status after => after.succeed status
  | refuse error after => after.refuse error
  | lose cause after => after.haltAtStep cause
  | run start => start.run

namespace Interpreter

/-! ## Going on -/

/-- The interpreter behind the current step. -/
def forward (interpreter : Interpreter) : Interpreter :=
  { interpreter.clearDisplay with restoring := false, step := interpreter.step + 1 }

/-- What a redirection comes down to. -/
def redirectPlan (interpreter : Interpreter) (target : String) : Plan :=
  match interpreter.jump target with
  | (.ok _, after) => .run after
  | (.error cause, after) => .lose cause after

theorem redirect_plan (interpreter : Interpreter) (target : String) :
    interpreter.redirect target = (interpreter.redirectPlan target).outcome := by
  simp only [redirect, redirectPlan]
  generalize interpreter.jump target = moved
  obtain ⟨result, after⟩ := moved
  cases result <;> rfl

/-- What the actions of an option come down to. -/
def actionsPlan : List ChoiceAction → Interpreter → Plan
  | [], interpreter => .run interpreter.forward
  | .show character :: actions, interpreter =>
    actionsPlan actions (interpreter.showCharacter character)
  | .hide character :: actions, interpreter =>
    actionsPlan actions (interpreter.hideCharacter character)
  | .dialogue character text :: actions, interpreter =>
    .settle .dialogue (runActions (.dialogue character text :: actions) interpreter).after
  | .goto target :: _, interpreter => interpreter.redirectPlan target

theorem runActions_plan (actions : List ChoiceAction) (interpreter : Interpreter) :
    runActions actions interpreter = (actionsPlan actions interpreter).outcome := by
  induction actions generalizing interpreter with
  | nil => rfl
  | cons action actions ih =>
      cases action with
      | «show» character => exact ih (interpreter.showCharacter character)
      | hide character => exact ih (interpreter.hideCharacter character)
      | dialogue character text => rfl
      | goto target => exact redirect_plan interpreter target

/-- What a part of the current line comes down to. -/
def partPlan (interpreter : Interpreter) (next : Nat) : Plan :=
  match interpreter.currentKind? with
  | some (.dialogue line) =>
    if next < line.parts.length then .settle .dialogue (interpreter.showPart next).after
    else .run interpreter.forward
  | _ => .run interpreter.forward

theorem showPart_plan (interpreter : Interpreter) (next : Nat) :
    interpreter.showPart next = (interpreter.partPlan next).outcome := by
  simp only [partPlan]
  split
  · rename_i line current
    split
    · rename_i below
      obtain ⟨part, screen, entry, -, -, -, shown⟩ := showPart_eq current below
      rw [shown]
      rfl
    · rename_i above
      have current : interpreter.currentStep?.map Step.kind = some (.dialogue line) := current
      have none : line.parts[next]? = none := List.getElem?_eq_none (Nat.not_lt.1 above)
      simp only [showPart]
      rw [current]
      dsimp only
      rw [none]
      rfl
  · rename_i other
    simp only [showPart]
    split
    · rename_i line current
      exact absurd current (other line)
    · rfl

/-- What is left to do comes down to. -/
def resumePlan (interpreter : Interpreter) : Continuation → Plan
  | .dialogueParts next => interpreter.partPlan next
  | .choiceActions remaining => actionsPlan remaining interpreter.clearScreen
  | .interjection screen status =>
    .settle status (interpreter.uncover screen status interpreter.continuations).after

theorem resume_plan (interpreter : Interpreter) (continuation : Continuation) :
    interpreter.resume continuation = (interpreter.resumePlan continuation).outcome := by
  cases continuation with
  | dialogueParts next => exact showPart_plan interpreter next
  | choiceActions remaining => exact runActions_plan remaining interpreter.clearScreen
  | interjection screen status => rfl

/-! ## Operations -/

/-- The next thing that is left to do comes down to. Behind the last one the story goes on. -/
def leftPlan (interpreter : Interpreter) : List Continuation → Plan
  | [] => .run interpreter.forward
  | continuation :: rest => { interpreter with continuations := rest }.resumePlan continuation

/-- What an advance comes down to. -/
def advancePlan (interpreter : Interpreter) : Plan :=
  match interpreter.continuations with
  | .interjection screen status :: continuations =>
    .settle status (interpreter.uncover screen status continuations).after
  | continuations =>
    match interpreter.status with
    | .notStarted => .refuse .notStarted interpreter
    | .dialogue => interpreter.leftPlan continuations
    | .titles _ => interpreter.leftPlan continuations
    | status => .settle status interpreter

theorem advance_plan (interpreter : Interpreter) :
    interpreter.advance = interpreter.advancePlan.outcome := by
  cases stack : interpreter.continuations with
  | nil =>
      simp only [advance, advancePlan, stay]
      rw [stack]
      cases interpreter.status <;> rfl
  | cons entry rest =>
      cases waiting : interpreter.status with
      | dialogue | titles =>
          have goesOn : interpreter.advance =
              { interpreter with continuations := rest }.resume entry := by
            simp only [advance]
            rw [stack, waiting]
            cases entry <;> rfl
          have left : interpreter.advancePlan = interpreter.leftPlan (entry :: rest) := by
            simp only [advancePlan]
            rw [stack, waiting]
            cases entry <;> rfl
          rw [goesOn, left]
          exact resume_plan _ entry
      | _ =>
          simp only [advance, advancePlan, stay]
          rw [stack, waiting]
          cases entry <;> rfl

/-- What a start comes down to. -/
def restartPlan (interpreter : Interpreter) (id : Option String) : Plan :=
  match interpreter.fetchUnit ((id.or interpreter.unitId?).getD "start") with
  | (.error cause, after) => .refuse (.content cause) after
  | (.ok story, after) =>
    .run { after.clearDisplay with
      callStack := [], continuations := [], restoring := false, story := some story, step := 0 }

theorem restart_plan (interpreter : Interpreter) (id : Option String) :
    interpreter.restart id = (interpreter.restartPlan id).outcome := by
  simp only [restart, restartPlan]
  generalize interpreter.fetchUnit _ = fetched
  obtain ⟨result, after⟩ := fetched
  cases result <;> rfl

/-- What a redirection by the host comes down to. -/
def gotoPlan (interpreter : Interpreter) (target : String) : Plan :=
  if interpreter.story.isNone then .refuse .notStarted interpreter
  else { interpreter with continuations := [], restoring := false }.redirectPlan target

theorem goto_plan (interpreter : Interpreter) (target : String) :
    interpreter.goto target = (interpreter.gotoPlan target).outcome := by
  simp only [goto, gotoPlan]
  cases interpreter.story.isNone with
  | true => rfl
  | false => exact redirect_plan _ target

/-- What a retry comes down to. -/
def retryPlan (interpreter : Interpreter) : Plan :=
  if interpreter.status.isHalted then .run interpreter else .settle interpreter.status interpreter

theorem retry_plan (interpreter : Interpreter) :
    interpreter.retry = interpreter.retryPlan.outcome := by
  simp only [retry, retryPlan]
  cases interpreter.status.isHalted <;> rfl

/-- What a timer comes down to. -/
def firePlan (interpreter : Interpreter) (token : Nat) : Plan :=
  match interpreter.timer with
  | none => .settle interpreter.status interpreter
  | some timer =>
    if timer.token ≠ token || interpreter.isInterrupted then
      .settle interpreter.status interpreter
    else if timer.awaitsEffectEnd then
      .settle interpreter.status (interpreter.fireTimer token).after
    else { interpreter with timer := none }.advancePlan

theorem fireTimer_plan (interpreter : Interpreter) (token : Nat) :
    interpreter.fireTimer token = (interpreter.firePlan token).outcome := by
  simp only [firePlan]
  cases armed : interpreter.timer with
  | none =>
      simp only [fireTimer]
      rw [armed]
      rfl
  | some timer =>
      dsimp only
      split
      · rename_i ignored
        simp only [fireTimer]
        rw [armed]
        exact if_pos ignored
      · rename_i due
        simp only [fireTimer]
        rw [armed]
        dsimp only
        rw [if_neg due]
        split
        · rfl
        · exact advance_plan _

/-- What the present time comes down to. -/
def tickPlan (interpreter : Interpreter) (now : Instant) : Plan :=
  match interpreter.timer with
  | none => .settle interpreter.status interpreter
  | some timer =>
    if timer.isDue now then interpreter.firePlan timer.token
    else .settle interpreter.status interpreter

theorem tick_plan (interpreter : Interpreter) (now : Instant) :
    interpreter.tick now = (interpreter.tickPlan now).outcome := by
  simp only [tick, tickPlan]
  cases interpreter.timer with
  | none => rfl
  | some timer =>
      dsimp only
      cases timer.isDue now with
      | true => exact fireTimer_plan interpreter timer.token
      | false => rfl

/-- What the end of an effect comes down to. -/
def acknowledgePlan (interpreter : Interpreter) : Plan :=
  if interpreter.effectPending then { interpreter with effectPending := false }.advancePlan
  else .settle interpreter.status interpreter

theorem acknowledgeEffect_plan (interpreter : Interpreter) :
    interpreter.acknowledgeEffect = interpreter.acknowledgePlan.outcome := by
  simp only [acknowledgeEffect, acknowledgePlan]
  cases interpreter.effectPending with
  | true => exact advance_plan _
  | false => rfl

/-- The interpreter with an answer in its state, and no question on screen. -/
def answered (interpreter : Interpreter) (answer : String) : Interpreter :=
  let path := interpreter.screen.input.bind InputPrompt.path
  let state := (path.map fun path => (interpreter.state.write path (.text answer)).1).getD
    interpreter.state
  { interpreter with state, screen := { interpreter.screen with input := none } }

/-- What an answer comes down to. -/
def submitPlan (interpreter : Interpreter) (answer : String) : Plan :=
  if interpreter.status ≠ .input then .refuse .noPendingInput interpreter
  else .run (interpreter.answered answer).forward

theorem submitInput_plan (interpreter : Interpreter) (answer : String) :
    interpreter.submitInput answer = (interpreter.submitPlan answer).outcome := by
  simp only [submitInput, submitPlan]
  by_cases asking : interpreter.status ≠ .input
  · rw [if_pos asking, if_pos asking]
    rfl
  · rw [if_neg asking, if_neg asking]
    rfl

/-- What a pick comes down to. -/
def selectPlan (interpreter : Interpreter) (index : Nat) : Plan :=
  if interpreter.status ≠ .choice then .refuse .noPendingChoice interpreter
  else
    match interpreter.currentKind? with
    | some (.choice offer) =>
      match offer.options[index]? with
      | none => .refuse (.invalidChoice index) interpreter
      | some option => actionsPlan option.actionList interpreter.clearScreen
    | _ => .refuse .noPendingChoice interpreter

theorem select_plan (interpreter : Interpreter) (index : Nat) :
    interpreter.select index = (interpreter.selectPlan index).outcome := by
  simp only [select, selectPlan, currentKind?]
  by_cases offering : interpreter.status ≠ .choice
  · rw [if_pos offering, if_pos offering]
    rfl
  · rw [if_neg offering, if_neg offering]
    cases interpreter.currentStep?.map Step.kind with
    | none => rfl
    | some kind =>
        cases kind with
        | choice offer =>
            dsimp only
            cases offer.options[index]? with
            | none => rfl
            | some option => exact runActions_plan _ _
        | _ => rfl

/-- What a resumption comes down to. -/
def resumptionPlan (interpreter : Interpreter) (snapshot : Snapshot) : Plan :=
  match interpreter.fetchUnit snapshot.unitId with
  | (.error cause, after) => .refuse (.content cause) after
  | (.ok story, after) => .run (after.placed story snapshot)

theorem resumeFrom_plan (interpreter : Interpreter) (snapshot : Snapshot) :
    interpreter.resumeFrom snapshot = (interpreter.resumptionPlan snapshot).outcome := by
  simp only [resumeFrom, resumptionPlan]
  generalize interpreter.fetchUnit snapshot.unitId = fetched
  obtain ⟨result, after⟩ := fetched
  cases result <;> rfl

end Interpreter

namespace Operation

/-- What an operation that may run the story comes down to. -/
def plan? (before : Interpreter) : Operation → Option Plan
  | start id => some (before.restartPlan (some id))
  | advance => some before.advancePlan
  | goto target => some (before.gotoPlan target)
  | retry => some before.retryPlan
  | endStory => some (.settle .completed before.endStory.after)
  | restart id => some (before.restartPlan id)
  | fireTimer token => some (before.firePlan token)
  | tick now => some (before.tickPlan now)
  | acknowledgeEffect => some before.acknowledgePlan
  | submitInput answer => some (before.submitPlan answer)
  | select index => some (before.selectPlan index)
  | inject character text => some (.settle .dialogue (before.inject character text).after)
  | resumeFrom snapshot => some (before.resumptionPlan snapshot)
  | _ => none

/-- Every operation has the outcome of its plan. -/
theorem outcome?_plan (before : Interpreter) (operation : Operation) :
    operation.outcome? before = (operation.plan? before).map Plan.outcome := by
  cases operation with
  | start id => exact congrArg some (before.restart_plan (some id))
  | advance => exact congrArg some before.advance_plan
  | goto target => exact congrArg some (before.goto_plan target)
  | retry => exact congrArg some before.retry_plan
  | restart id => exact congrArg some (before.restart_plan id)
  | fireTimer token => exact congrArg some (before.fireTimer_plan token)
  | tick now => exact congrArg some (before.tick_plan now)
  | acknowledgeEffect => exact congrArg some before.acknowledgeEffect_plan
  | submitInput answer => exact congrArg some (before.submitInput_plan answer)
  | select index => exact congrArg some (before.select_plan index)
  | resumeFrom snapshot => exact congrArg some (before.resumeFrom_plan snapshot)
  | _ => rfl

theorem outcome?_eq_some {before : Interpreter} {operation : Operation} {outcome : Outcome}
    (ran : operation.outcome? before = some outcome) :
    ∃ plan, operation.plan? before = some plan ∧ plan.outcome = outcome := by
  rw [outcome?_plan] at ran
  exact Option.map_eq_some_iff.1 ran

end Operation

end VisualNovel
