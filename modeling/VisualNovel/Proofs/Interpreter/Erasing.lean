import VisualNovel.Proofs.Interpreter.Lines
import VisualNovel.Proofs.Interpreter.Rounds

/-!
# Parts that no restore asks for

The number of parts that were shown before a restore is read while steps are passed again, and at no
other time. A story that does not restore takes the same rounds when this number is erased, and it
makes no difference whether it is erased in front of a round or behind it.
-/

namespace VisualNovel

/-- The interpreter without the number of parts that were shown before a restore. -/
def Interpreter.withoutParts (interpreter : Interpreter) : Interpreter :=
  { interpreter with restoreParts := 0 }

/-- The outcome without the number of parts that were shown before a restore. -/
def Outcome.withoutParts (outcome : Outcome) : Outcome :=
  { outcome with after := outcome.after.withoutParts }

/-- The round without the number of parts that were shown before a restore. -/
def Turn.withoutParts : Turn → Turn
  | .performed after => .performed after.withoutParts
  | .returned after => .returned after.withoutParts
  | .stopped outcome => .stopped outcome.withoutParts
  | .ended outcome => .ended outcome.withoutParts

namespace Interpreter

variable {interpreter : Interpreter}

/-! ## Steps -/

theorem withoutParts_fetchUnit (interpreter : Interpreter) (name : String) :
    interpreter.withoutParts.fetchUnit name =
      Prod.map id withoutParts (interpreter.fetchUnit name) := by
  simp only [fetchUnit, withoutParts]
  split
  · rfl
  · split <;> rfl

theorem withoutParts_jump (interpreter : Interpreter) (target : String) :
    interpreter.withoutParts.jump target =
      Prod.map id withoutParts (interpreter.jump target) := by
  have fetched := withoutParts_fetchUnit interpreter.clearDisplay target
  have story : interpreter.withoutParts.clearDisplay.story = interpreter.clearDisplay.story := rfl
  change interpreter.withoutParts.clearDisplay.fetchUnit target = _ at fetched
  simp only [jump]
  rw [story, fetched]
  generalize interpreter.clearDisplay.fetchUnit target = loaded
  obtain ⟨result, after⟩ := loaded
  split
  · rfl
  · split
    · rfl
    · cases result <;> rfl

theorem withoutParts_returnToCaller (interpreter : Interpreter) :
    interpreter.withoutParts.returnToCaller =
      Prod.map id withoutParts interpreter.returnToCaller := by
  have stack : interpreter.withoutParts.callStack = interpreter.callStack := rfl
  simp only [returnToCaller]
  rw [stack]
  split
  · rfl
  · rename_i frame callStack stacked
    rw [withoutParts_fetchUnit]
    generalize interpreter.fetchUnit frame.unitId = loaded
    obtain ⟨result, after⟩ := loaded
    cases result <;> rfl

theorem withoutParts_unlessRestoring (fresh : interpreter.restoring = false)
    {change : Interpreter → Interpreter}
    (changes : change interpreter.withoutParts = (change interpreter).withoutParts) :
    interpreter.withoutParts.unlessRestoring change =
      Prod.map id withoutParts (interpreter.unlessRestoring change) := by
  have erased : interpreter.withoutParts.restoring = false := fresh
  simp only [unlessRestoring]
  rw [fresh, erased]
  exact congrArg (Prod.mk _) changes

/-- A line that is performed for the first time erases the number itself. -/
theorem withoutParts_showDialogue (fresh : interpreter.restoring = false) (line : Dialogue) :
    interpreter.withoutParts.showDialogue line =
      Prod.map id withoutParts (interpreter.showDialogue line) := by
  have same : interpreter.withoutParts.showDialogue line = interpreter.showDialogue line := by
    have erased : interpreter.withoutParts.restoring = false := fresh
    simp only [showDialogue]
    rw [fresh, erased]
    rfl
  obtain ⟨screen, entry, -, -, shown⟩ := showDialogue_fresh fresh line
  rw [same, showDialogue_eq, shown]
  rfl

theorem withoutParts_showTitles (interpreter : Interpreter) (card : Titles) :
    interpreter.withoutParts.showTitles card =
      Prod.map id withoutParts (interpreter.showTitles card) := by
  simp only [showTitles]
  cases card.assignment <;> cases card.durationMs? <;> rfl

theorem withoutParts_showCharacter (interpreter : Interpreter) (character : String) :
    interpreter.withoutParts.showCharacter character =
      (interpreter.showCharacter character).withoutParts := by
  have state : interpreter.withoutParts.state = interpreter.state := rfl
  have visible : interpreter.withoutParts.visible = interpreter.visible := rfl
  simp only [showCharacter]
  rw [state, visible]
  split <;> rfl

/-- A step that is performed for the first time does not ask for the number. -/
theorem withoutParts_dispatch (fresh : interpreter.restoring = false) (step : Step) :
    interpreter.withoutParts.dispatch step =
      Prod.map id withoutParts (interpreter.dispatch step) := by
  have erased : interpreter.withoutParts.restoring = false := fresh
  have content : interpreter.withoutParts.content = interpreter.content := rfl
  cases kind : step.kind with
  | scene name =>
      simp only [dispatch, kind, changeScene]
      rw [erased, fresh, content]
      split
      · simp only [Bool.false_eq_true, ↓reduceIte]
        split <;> rfl
      · rfl
  | «show» character =>
      simp only [dispatch, kind]
      exact withoutParts_unlessRestoring fresh (withoutParts_showCharacter interpreter character)
  | hide | play | stopStream | stopAllStreams =>
      simp only [dispatch, kind]
      exact withoutParts_unlessRestoring fresh rfl
  | dialogue line =>
      simp only [dispatch, kind]
      exact withoutParts_showDialogue fresh line
  | titles card =>
      simp only [dispatch, kind]
      rw [erased, fresh]
      exact withoutParts_showTitles interpreter card
  | goto target =>
      simp only [dispatch, kind]
      exact withoutParts_jump interpreter target
  | back =>
      simp only [dispatch, kind]
      exact withoutParts_returnToCaller interpreter
  | finish =>
      simp only [dispatch, kind]
      exact withoutParts_returnToCaller { interpreter with restoring := false }
  | assign | input | choice =>
      simp only [dispatch, kind]
      rfl

/-! ## Runs -/

theorem withoutParts_complete (interpreter : Interpreter) :
    interpreter.withoutParts.complete = interpreter.complete.withoutParts := by
  have status : interpreter.withoutParts.status = interpreter.status := rfl
  simp only [complete]
  rw [status]
  split <;> rfl

theorem withoutParts_afterStep (dispatched : Dispatched) :
    afterStep (Prod.map id withoutParts dispatched) = (afterStep dispatched).withoutParts := by
  obtain ⟨result, after⟩ := dispatched
  cases result with
  | error cause => rfl
  | ok flow =>
      cases flow with
      | complete => exact congrArg Turn.stopped (withoutParts_complete after)
      | _ => rfl

theorem withoutParts_turn (fresh : interpreter.restoring = false) (dispatched : Nat) :
    interpreter.withoutParts.turn dispatched = (interpreter.turn dispatched).withoutParts := by
  have story : interpreter.withoutParts.story = interpreter.story := rfl
  have step : interpreter.withoutParts.step = interpreter.step := rfl
  have limits : interpreter.withoutParts.settings = interpreter.settings := rfl
  simp only [turn]
  rw [story, step, limits]
  split
  · exact congrArg Turn.ended (withoutParts_complete interpreter)
  · split
    · rw [withoutParts_returnToCaller]
      generalize interpreter.returnToCaller = returned
      obtain ⟨result, after⟩ := returned
      cases result with
      | error cause => rfl
      | ok flow =>
          cases flow with
          | complete => exact congrArg Turn.ended (withoutParts_complete after)
          | _ => rfl
    · split
      · rfl
      · rw [withoutParts_dispatch fresh, withoutParts_afterStep]

theorem withoutParts_loop (fresh : interpreter.restoring = false) (fuel dispatched : Nat) :
    loop fuel dispatched interpreter.withoutParts =
      (loop fuel dispatched interpreter).withoutParts := by
  induction fuel generalizing interpreter dispatched with
  | zero => rfl
  | succ fuel ih =>
      simp only [loop]
      rw [withoutParts_turn fresh]
      -- A round that goes on does not begin to restore, so the next one can be erased as well.
      cases turned : interpreter.turn dispatched with
      | performed after => exact ih ((turn_performed turned).fresh fresh) (dispatched + 1)
      | returned after => exact ih ((turn_returned turned).fresh fresh) dispatched
      | stopped outcome => rfl
      | ended outcome => rfl

/-- A run that does not restore does not ask for the number. -/
theorem withoutParts_run (fresh : interpreter.restoring = false) :
    interpreter.withoutParts.run = interpreter.run.withoutParts :=
  withoutParts_loop fresh interpreter.rounds 0

end Interpreter

end VisualNovel
