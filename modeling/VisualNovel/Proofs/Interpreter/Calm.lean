import VisualNovel.Proofs.Interpreter.Coherence

/-!
# Stories at one moment

While an operation is performed, no time passes. A title card that it puts on screen is timed from
this moment on, so the deadline of the timer is known from the card alone. A story that passes no
steps again after a restore does not begin to.
-/

namespace VisualNovel.Interpreter

variable {interpreter after : Interpreter} {step : Step} {now : Instant}

/-! ## The clock -/

theorem jump_clock (interpreter : Interpreter) (target : String) :
    (interpreter.jump target).2.clock = interpreter.clock :=
  jump_field Interpreter.clock (fun _ _ _ _ => rfl) target

theorem returnToCaller_clock (interpreter : Interpreter) :
    interpreter.returnToCaller.2.clock = interpreter.clock :=
  returnToCaller_field Interpreter.clock fun _ _ _ _ => rfl

theorem Effect.clock (effect : Effect interpreter after) : after.clock = interpreter.clock := by
  cases effect with
  | shown id =>
      simp only [showCharacter]
      split <;> rfl
  | _ => rfl

theorem showDialogue_clock (interpreter : Interpreter) (line : Dialogue) :
    (interpreter.showDialogue line).2.clock = interpreter.clock := by
  cases restoring : interpreter.restoring with
  | true =>
      obtain ⟨screen, -, same⟩ := showDialogue_restoring restoring line
      rw [same]
  | false =>
      obtain ⟨screen, entry, -, -, same⟩ := showDialogue_fresh restoring line
      rw [same]
      cases line.assignment <;> rfl

theorem Round.clock {dispatched next : Nat} (round : Round dispatched interpreter next after) :
    after.clock = interpreter.clock := by
  cases round with
  | returned current exhausted returned =>
      have kept := returnToCaller_clock interpreter
      rw [returned] at kept
      exact kept
  | passed current found below effect => exact effect.clock
  | @jumped _ _ step current found below jumped =>
      have performed := dispatch_performed interpreter step
      rw [jumped] at performed
      cases performed with
      | @jump target _ kind moved =>
          have kept := jump_clock interpreter target
          rw [moved] at kept
          exact kept
      | back kind returned =>
          have kept := returnToCaller_clock interpreter
          rw [returned] at kept
          exact kept
      | finish kind returned =>
          have kept := returnToCaller_clock { interpreter with restoring := false }
          rw [returned] at kept
          exact kept

/-! ## Runs -/

/-- No steps are passed again after a restore, and a timer runs for the card under all injected
lines, from the present moment on. -/
structure Calm (now : Instant) (interpreter : Interpreter) : Prop where
  fresh : interpreter.restoring = false
  clock : interpreter.clock = now
  timer : ∀ timer, interpreter.timer = some timer → ∃ durationMs,
    interpreter.base.status = .titles (some durationMs) ∧ timer.deadline = now.after durationMs

/-- What every round of a run finds at a moment. -/
structure Rises (now : Instant) (interpreter : Interpreter) : Prop extends Idle interpreter where
  fresh : interpreter.restoring = false
  clock : interpreter.clock = now

theorem Calm.of_untimed (fresh : interpreter.restoring = false) (clock : interpreter.clock = now)
    (untimed : interpreter.timer = none) : interpreter.Calm now where
  fresh := fresh
  clock := clock
  timer := by
    intro timer armed
    rw [untimed] at armed
    cases armed

theorem Rises.halt (rises : interpreter.Rises now) (error : StoryError) :
    (interpreter.halt error).after.Calm now :=
  .of_untimed rises.fresh rises.clock rises.timer

theorem complete_calm (clock : interpreter.clock = now) : interpreter.complete.after.Calm now := by
  apply Calm.of_untimed
  · rfl
  · rw [← clock]
    simp only [complete]
    split <;> rfl
  · rfl

theorem showTitles_calm (rises : interpreter.Rises now) (card : Titles) :
    ((interpreter.showTitles card).2.wait (.titles card.durationMs?)).after.Calm now := by
  have standing := (assignOptional_backstage interpreter card.assignment).toStanding
  have clock : (interpreter.assignOptional card.assignment).clock = interpreter.clock := by
    cases card.assignment <;> rfl
  have fresh : (interpreter.assignOptional card.assignment).restoring = interpreter.restoring := by
    cases card.assignment <;> rfl
  have left := standing.continuations.trans rises.continuations
  have settled := fresh.trans rises.fresh
  have still := clock.trans rises.clock
  simp only [showTitles]
  generalize interpreter.assignOptional card.assignment = assigned at left settled still
  cases card.durationMs? with
  | none => exact .of_untimed settled still rfl
  | some durationMs =>
      refine ⟨settled, still, ?_⟩
      intro timer armed
      cases armed
      refine ⟨durationMs, ?_, congrArg (Instant.after · durationMs) still⟩
      change (Display.under _ (.titles (some durationMs)) assigned.continuations).status = _
      rw [left]
      rfl

theorem Pause.calm {status : Status} (pause : Pause interpreter step status after)
    (rises : interpreter.Rises now) : (after.wait status).after.Calm now := by
  cases pause with
  | @dialogue line kind =>
      obtain ⟨screen, entry, -, -, same⟩ := showDialogue_fresh rises.fresh line
      have clock := (showDialogue_clock interpreter line).trans rises.clock
      have timer : (interpreter.showDialogue line).2.timer = none := by
        rw [same]
        exact (assignOptional_backstage interpreter line.assignment).timer.trans rises.timer
      have fresh : (interpreter.showDialogue line).2.restoring = false := by rw [same]
      generalize (interpreter.showDialogue line).2 = shown at clock timer fresh
      exact .of_untimed fresh clock timer
  | @titles card kind fresh => exact showTitles_calm rises card
  | input kind => exact .of_untimed rfl rises.clock rises.timer
  | choice kind => exact .of_untimed rfl rises.clock rises.timer

theorem Rises.run (rises : interpreter.Rises now) : interpreter.run.after.Calm now := by
  apply run_induction (fun _ reached => reached.Rises now) fun outcome => outcome.after.Calm now
  · intro dispatched reached next after rises round
    exact ⟨rises.toIdle.round round, round.fresh rises.fresh, round.clock.trans rises.clock⟩
  · intro dispatched reached outcome rises ending
    cases ending with
    | completed => exact complete_calm rises.clock
    | limited => exact rises.halt _
    | paused current found below pause => exact pause.calm rises
    | failed same =>
        rcases same with rfl | rfl | rfl
        · exact rises.halt _
        · exact .of_untimed rises.fresh rises.clock rfl
        · exact .of_untimed rfl rises.clock rises.timer
  · exact rises

/-! ## Operations -/

theorem Calm.restart (calm : interpreter.Calm now) (id : Option String) :
    (interpreter.restart id).after.Calm now := by
  simp only [Interpreter.restart]
  split
  · rename_i cause after failed
    cases fetchUnit_error failed
    exact calm
  · rename_i story after fetched
    obtain ⟨units, -, rfl⟩ := fetchUnit_ok fetched
    exact Rises.run ⟨⟨rfl, rfl, rfl, rfl⟩, rfl, calm.clock⟩

theorem Calm.goto (calm : interpreter.Calm now) (target : String) :
    (interpreter.goto target).after.Calm now := by
  simp only [Interpreter.goto]
  split
  · exact calm
  · have clock := jump_clock { interpreter with continuations := [], restoring := false } target
    simp only [redirect]
    split
    · rename_i flow after jumped
      rw [jumped] at clock
      obtain ⟨moved, -⟩ := jump_moved jumped
      exact Rises.run ⟨⟨moved.continuations, moved.screen, moved.timer, moved.effectPending⟩,
        moved.fresh rfl, clock.trans calm.clock⟩
    · rename_i cause after failed
      cases jump_error failed
      exact .of_untimed rfl calm.clock rfl

theorem Calm.endStory (calm : interpreter.Calm now) : interpreter.endStory.after.Calm now :=
  complete_calm calm.clock

/-- An injected line covers the card, whose timer goes on. -/
theorem Calm.inject (calm : interpreter.Calm now) (character : Option String) (text : String) :
    (interpreter.inject character text).after.Calm now :=
  ⟨calm.fresh, calm.clock, calm.timer⟩

theorem Calm.loadCharacters (calm : interpreter.Calm now) (ids : List String) :
    (interpreter.loadCharacters ids).2.Calm now := by
  obtain ⟨state, visible, events, same⟩ := loadCharacters_eq interpreter ids
  rw [same]
  exact ⟨calm.fresh, calm.clock, calm.timer⟩

end VisualNovel.Interpreter
