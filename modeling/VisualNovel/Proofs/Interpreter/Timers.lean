import VisualNovel.Proofs.Interpreter.Coherence

/-!
# Timers of title cards

A card with a duration arms a timer, which outlives the operation that armed it. A run of steps
begins without a timer. Only the card that it ends with arms one, under a number that no earlier
timer had, so that every run discards the timer and the awaited effect of the card before it.
-/

namespace VisualNovel

namespace StoryEvent

/-- Whether the event announces the effect at the end of a card. -/
def isEffectEnd : StoryEvent → Bool
  | titleEffectEnd _ => true
  | _ => false

end StoryEvent

namespace Interpreter

variable {interpreter before front after start : Interpreter}
variable {step : Step} {dispatched : Nat}

/-- The effects at the end of cards that were announced and not yet taken by the host. -/
def effectEnds (interpreter : Interpreter) : List StoryEvent :=
  interpreter.events.filter StoryEvent.isEffectEnd

/-! ## Changes that arm no timer -/

/-- A change that takes no number for a timer and announces nothing. -/
structure Silent (before after : Interpreter) : Prop where
  nextToken : after.nextToken = before.nextToken := by rfl
  events : after.events = before.events := by rfl

theorem Silent.trans (first : Silent before front) (second : Silent front after) :
    Silent before after :=
  ⟨second.nextToken.trans first.nextToken, second.events.trans first.events⟩

theorem assignOptional_silent (interpreter : Interpreter) (expression : Option String) :
    Silent interpreter (interpreter.assignOptional expression) := by
  cases expression <;> exact {}

theorem showCharacter_silent (interpreter : Interpreter) (id : String) :
    Silent interpreter (interpreter.showCharacter id) := by
  simp only [showCharacter]
  split <;> exact {}

theorem Effect.silent (effect : Effect interpreter after) : Silent interpreter after := by
  cases effect with
  | shown id => exact showCharacter_silent interpreter id
  | _ => exact {}

theorem jump_silent {target : String} {flow : Flow}
    (jumped : interpreter.jump target = (.ok flow, after)) : Silent interpreter after := by
  obtain ⟨-, story, -, ⟨position, -, rfl⟩ | ⟨-, next, units, -, rfl⟩⟩ := jump_ok jumped
  · exact {}
  · exact {}

theorem returnToCaller_silent (returned : interpreter.returnToCaller = (.ok .jumped, after)) :
    Silent interpreter after := by
  rcases returnToCaller_ok returned with ⟨flow, -⟩ | ⟨-, frame, rest, story, units, -, -, rfl⟩
  · cases flow
  · exact {}

theorem dispatch_jumped_silent (jumped : interpreter.dispatch step = (.ok .jumped, after)) :
    Silent interpreter after := by
  have performed := dispatch_performed interpreter step
  rw [jumped] at performed
  cases performed with
  | jump kind jumped => exact jump_silent jumped
  | back kind returned => exact returnToCaller_silent returned
  | finish kind returned =>
      have settled : Silent interpreter { interpreter with restoring := false } := {}
      exact settled.trans (returnToCaller_silent returned)

theorem Round.silent {next : Nat} (round : Round dispatched interpreter next after) :
    Silent interpreter after := by
  cases round with
  | returned current exhausted returned => exact returnToCaller_silent returned
  | passed current found below effect => exact { effect.silent with }
  | jumped current found below jumped => exact dispatch_jumped_silent jumped

theorem showDialogue_silent (interpreter : Interpreter) (line : Dialogue) :
    Silent interpreter (interpreter.showDialogue line).2 := by
  cases restoring : interpreter.restoring with
  | true =>
      obtain ⟨screen, -, same⟩ := showDialogue_restoring restoring line
      rw [same]
      exact {}
  | false =>
      obtain ⟨screen, entry, -, -, same⟩ := showDialogue_fresh restoring line
      rw [same]
      exact { assignOptional_silent interpreter line.assignment with }

/-! ## Runs -/

/-- No timer is left that was armed before, and no effect is awaited. -/
structure Renewed (before after : Interpreter) : Prop where
  effectPending : after.effectPending = false
  later : before.nextToken ≤ after.nextToken
  timer : ∀ timer, after.timer = some timer →
    before.nextToken ≤ timer.token ∧ timer.token < after.nextToken
  effectEnds : after.effectEnds = before.effectEnds

theorem Renewed.silent (silent : Silent before front) (renewed : Renewed front after) :
    Renewed before after where
  effectPending := renewed.effectPending
  later := silent.nextToken ▸ renewed.later
  timer := silent.nextToken ▸ renewed.timer
  effectEnds := by
    rw [renewed.effectEnds]
    simp only [Interpreter.effectEnds]
    rw [silent.events]

/-- Without a timer there is nothing to discard. -/
theorem Silent.renewed (silent : Silent before after) (timer : after.timer = none)
    (effectPending : after.effectPending = false) : Renewed before after where
  effectPending := effectPending
  later := Nat.le_of_eq silent.nextToken.symm
  timer := by
    intro armed present
    rw [timer] at present
    cases present
  effectEnds := by
    simp only [Interpreter.effectEnds]
    rw [silent.events]

theorem Idle.silent_renewed (idle : after.Idle) (silent : Silent before after) :
    Renewed before after :=
  silent.renewed idle.timer idle.effectPending

theorem complete_renewed (interpreter : Interpreter) :
    Renewed interpreter interpreter.complete.after := by
  refine ⟨rfl, ?_, ?_, ?_⟩
  · simp only [complete]
    split <;> exact Nat.le_refl _
  · intro timer armed
    cases armed
  · simp only [complete]
    split
    · rfl
    · simp [effectEnds, emit, wait, succeed, clearTimer, StoryEvent.isEffectEnd]

/-- A card arms a timer under the next number, or none. -/
theorem showTitles_renewed (interpreter : Interpreter) (card : Titles) :
    Renewed interpreter (interpreter.showTitles card).2 := by
  have assigned := assignOptional_silent interpreter card.assignment
  simp only [showTitles]
  generalize interpreter.assignOptional card.assignment = prepared at assigned
  apply Renewed.silent assigned
  cases card.durationMs? with
  | none =>
      refine ⟨rfl, Nat.le_refl _, ?_, rfl⟩
      intro timer armed
      cases armed
  | some durationMs =>
      refine ⟨rfl, Nat.le_succ _, ?_, rfl⟩
      intro timer armed
      cases armed
      exact ⟨Nat.le_refl _, Nat.lt_succ_self _⟩

theorem Pause.renewed {status : Status} (pause : Pause interpreter step status after)
    (idle : interpreter.Idle) : Renewed interpreter after := by
  cases pause with
  | @dialogue line kind =>
      have silent := showDialogue_silent interpreter line
      cases restoring : interpreter.restoring with
      | true =>
          obtain ⟨screen, -, same⟩ := showDialogue_restoring restoring line
          rw [same] at silent ⊢
          exact silent.renewed idle.timer idle.effectPending
      | false =>
          have standing := (assignOptional_backstage interpreter line.assignment).toStanding
          obtain ⟨screen, entry, -, -, same⟩ := showDialogue_fresh restoring line
          rw [same] at silent ⊢
          exact silent.renewed (standing.timer.trans idle.timer)
            (standing.effectPending.trans idle.effectPending)
  | @titles card kind fresh => exact showTitles_renewed interpreter card
  | @input path text kind =>
      have silent : Silent interpreter (interpreter.showInput path text).2 := {}
      exact silent.renewed idle.timer idle.effectPending
  | @choice offer kind =>
      have silent : Silent interpreter (interpreter.showChoice offer).2 := {}
      exact silent.renewed idle.timer idle.effectPending

theorem Ending.renewed {outcome : Outcome} (ending : Ending dispatched interpreter outcome)
    (idle : interpreter.Idle) : Renewed interpreter outcome.after := by
  cases ending with
  | completed => exact complete_renewed interpreter
  | limited => exact { idle.silent_renewed ⟨rfl, rfl⟩ with }
  | paused current found below pause => exact { pause.renewed idle with }
  | failed same =>
      have renewed : Renewed interpreter interpreter := idle.silent_renewed {}
      have cleared : Renewed interpreter interpreter.clearDisplay := idle.cleared.silent_renewed {}
      rcases same with rfl | rfl | rfl
      · exact { renewed with }
      · exact { cleared with }
      · exact { renewed with }

/-- A run that begins without a timer arms at most a new one. -/
theorem run_renewed (idle : start.Idle) : Renewed start start.run.after := by
  apply run_induction (fun _ reached => reached.Idle ∧ Silent start reached)
    fun outcome => Renewed start outcome.after
  · rintro dispatched reached next after ⟨idle, silent⟩ round
    exact ⟨idle.round round, silent.trans round.silent⟩
  · rintro dispatched reached outcome ⟨idle, silent⟩ ending
    exact Renewed.silent silent (ending.renewed idle)
  · exact ⟨idle, {}⟩

theorem Idle.run (idle : start.Idle) (silent : Silent before start) :
    Renewed before start.run.after :=
  Renewed.silent silent (run_renewed idle)

end Interpreter

end VisualNovel
