import VisualNovel.Proofs.Interpreter.Layers
import VisualNovel.Proofs.Interpreter.Operation
import VisualNovel.Proofs.Interpreter.Termination

/-!
# Coherence of an interpreter

Steps begin with an empty screen and nothing left to do, and a run ends with what the last step
shows. Each operation either continues the base or puts a layer over it, so every interpreter that a
host can reach is coherent.
-/

namespace VisualNovel.Interpreter

variable {interpreter after : Interpreter} {step : Step}
variable {current : Option StepKind} {timed : Bool} {screen : Screen} {status : Status}
variable {left : List Continuation}

/-! ## Runs -/

/-- A halted story does not wait. -/
theorem isWaiting_of_isHalted (halted : status.isHalted = true) : status.isWaiting = false := by
  cases status with
  | halted reason => rfl
  | _ => cases halted

/-- Nothing is on screen and nothing is left to do: what every round of a run finds. -/
structure Idle (interpreter : Interpreter) : Prop where
  continuations : interpreter.continuations = []
  screen : interpreter.screen = .blank
  timer : interpreter.timer = none
  effectPending : interpreter.effectPending = false

theorem Idle.isTimed (idle : interpreter.Idle) : interpreter.isTimed = false := by
  simp only [Interpreter.isTimed]
  rw [idle.timer, idle.effectPending]
  rfl

theorem Idle.settled (idle : interpreter.Idle) (resting : interpreter.status.isWaiting = false) :
    interpreter.Settled := by
  simp only [Settled]
  rw [idle.continuations, idle.screen, idle.isTimed]
  exact Fits.idle resting

theorem Idle.cleared (idle : interpreter.Idle) : interpreter.clearDisplay.Idle :=
  ⟨idle.continuations, rfl, rfl, rfl⟩

theorem Idle.complete (idle : interpreter.Idle) : interpreter.complete.after.Settled := by
  apply Idle.settled
  · simp only [Interpreter.complete]
    constructor
    · rfl
    · dsimp only [wait, succeed, clearTimer]
      split <;> exact idle.screen
    · rfl
    · rfl
  · rfl

theorem Idle.halt (idle : interpreter.Idle) (error : StoryError) :
    (interpreter.halt error).after.Settled :=
  Idle.settled ⟨idle.continuations, idle.screen, idle.timer, idle.effectPending⟩ rfl

theorem Idle.round {dispatched next : Nat} (idle : interpreter.Idle)
    (round : Round dispatched interpreter next after) : after.Idle := by
  cases round with
  | returned current exhausted returned =>
      obtain ⟨moved, -⟩ := returnToCaller_moved returned
      exact ⟨moved.continuations.trans idle.continuations, moved.screen, moved.timer,
        moved.effectPending⟩
  | passed current found below effect =>
      have backstage := effect.backstage
      exact ⟨backstage.continuations.trans idle.continuations, backstage.screen.trans idle.screen,
        backstage.timer.trans idle.timer, backstage.effectPending.trans idle.effectPending⟩
  | jumped current found below jumped =>
      obtain ⟨moved, -⟩ := dispatch_moved jumped
      exact ⟨moved.continuations.trans idle.continuations, moved.screen, moved.timer,
        moved.effectPending⟩

theorem Standing.isTimed (standing : Standing interpreter after) :
    after.isTimed = interpreter.isTimed := by
  simp only [Interpreter.isTimed]
  rw [standing.timer, standing.effectPending]

/-- The card of a step is put on screen. -/
theorem showTitles_shows (interpreter : Interpreter) (card : Titles) :
    (interpreter.showTitles card).2.currentKind? = interpreter.currentKind? ∧
      (interpreter.showTitles card).2.continuations = interpreter.continuations ∧
      (∃ state, (interpreter.showTitles card).2.screen =
        { Screen.blank with title := some ⟨StateTree.substitute state card.text, card.effectStart,
          card.effect, card.effectEnd, card.typewriter, card.durationMs?⟩ }) ∧
      ((interpreter.showTitles card).2.isTimed = true → card.durationMs?.isSome = true) := by
  have standing := (assignOptional_backstage interpreter card.assignment).toStanding
  simp only [showTitles]
  cases duration : card.durationMs? with
  | none =>
      exact ⟨standing.currentKind?, standing.continuations,
        ⟨(interpreter.assignOptional card.assignment).state, rfl⟩, by intro timed; cases timed⟩
  | some durationMs =>
      exact ⟨standing.currentKind?, standing.continuations,
        ⟨(interpreter.assignOptional card.assignment).state, rfl⟩, fun _ => rfl⟩

/-- A line of the current step fits with what is left of it. -/
theorem Fits.shown {line : Dialogue} (kind : current = some (.dialogue line))
    (lined : screen.IsLine) (shown : Nat) : Fits current false screen .dialogue (line.left shown) := by
  simp only [Dialogue.left]
  split
  · rename_i below
    exact .parts kind lined below
  · exact .line kind lined

theorem showDialogue_settled {line : Dialogue} (idle : interpreter.Idle)
    (current : interpreter.currentKind? = some (.dialogue line)) :
    ((interpreter.showDialogue line).2.wait .dialogue).after.Settled := by
  apply Fits.layered
  cases restoring : interpreter.restoring with
  | true =>
      obtain ⟨screen, lined, same⟩ := showDialogue_restoring restoring line
      rw [same]
      change Fits interpreter.currentKind? interpreter.isTimed screen .dialogue
        (line.left _ ++ interpreter.continuations)
      rw [idle.isTimed, idle.continuations, List.append_nil]
      exact .shown current lined _
  | false =>
      have standing := (assignOptional_backstage interpreter line.assignment).toStanding
      obtain ⟨screen, entry, lined, -, same⟩ := showDialogue_fresh restoring line
      rw [same]
      change Fits (interpreter.assignOptional line.assignment).currentKind?
        (interpreter.assignOptional line.assignment).isTimed screen .dialogue
        (line.left 0 ++ interpreter.continuations)
      rw [standing.isTimed, idle.isTimed, idle.continuations, List.append_nil]
      exact .shown (standing.currentKind?.trans current) lined 0

/-- A step that waits puts on screen what belongs to it. -/
theorem Pause.settled {status : Status} (pause : Pause interpreter step status after)
    (idle : interpreter.Idle) (found : interpreter.currentStep? = some step) :
    (after.wait status).after.Settled := by
  have current : interpreter.currentKind? = some step.kind := congrArg (Option.map Step.kind) found
  cases pause with
  | dialogue kind =>
      rw [kind] at current
      exact showDialogue_settled idle current
  | @titles card kind fresh =>
      rw [kind] at current
      obtain ⟨same, left, ⟨state, screen⟩, timed⟩ := showTitles_shows interpreter card
      apply Fits.layered
      change Fits (interpreter.showTitles card).2.currentKind?
        (interpreter.showTitles card).2.isTimed (interpreter.showTitles card).2.screen
        (.titles card.durationMs?) (interpreter.showTitles card).2.continuations
      rw [same, left, screen, idle.continuations]
      exact .titles current timed
  | @input path text kind =>
      rw [kind] at current
      apply Fits.layered
      change Fits interpreter.currentKind? interpreter.isTimed _ .input interpreter.continuations
      rw [idle.isTimed, idle.continuations]
      exact .input current rfl
  | @choice offer kind =>
      rw [kind] at current
      apply Fits.layered
      change Fits interpreter.currentKind? interpreter.isTimed _ .choice interpreter.continuations
      rw [idle.isTimed, idle.continuations]
      exact .choice current rfl

/-- A run from an empty screen with nothing left to do settles. -/
theorem run_settled (idle : interpreter.Idle) : interpreter.run.after.Settled := by
  apply run_induction (fun _ interpreter => interpreter.Idle) fun outcome => outcome.after.Settled
  · intro dispatched interpreter next after idle round
    exact idle.round round
  · intro dispatched interpreter outcome idle ending
    cases ending with
    | completed => exact idle.complete
    | limited => exact idle.halt _
    | paused current found below pause =>
        refine pause.settled idle ?_
        simp only [currentStep?]
        rw [current]
        exact found
    | failed same =>
        rcases same with rfl | rfl | rfl
        · exact idle.halt _
        · exact idle.cleared.halt _
        · have settled : Idle { interpreter with restoring := false } := { idle with }
          exact settled.halt _
  · exact idle

/-- The story goes on behind the current step when nothing is left to do. -/
theorem stepForward_settled (done : interpreter.continuations = []) :
    interpreter.stepForward.after.Settled :=
  run_settled ⟨done, rfl, rfl, rfl⟩

theorem redirect_settled (done : interpreter.continuations = []) (target : String) :
    (interpreter.redirect target).after.Settled := by
  simp only [redirect]
  split
  · rename_i flow after jumped
    obtain ⟨moved, -⟩ := jump_moved jumped
    exact run_settled ⟨moved.continuations.trans done, moved.screen, moved.timer,
      moved.effectPending⟩
  · rename_i cause after failed
    cases jump_error failed
    have idle : interpreter.clearDisplay.Idle := ⟨done, rfl, rfl, rfl⟩
    exact idle.halt _

/-! ## Operations -/

/-- What is done does not change whether injected lines lie over a base that fits. -/
theorem Standing.settled (standing : Standing interpreter after)
    (screen : after.screen = interpreter.screen) (status : after.status = interpreter.status)
    (settled : interpreter.Settled) : after.Settled := by
  simp only [Settled]
  rw [standing.currentKind?, standing.isTimed, screen, status, standing.continuations]
  exact settled

/-- The actions of an option leave those behind a line, or move the story on. -/
theorem runActions_settled {offer : Choice} {option : ChoiceOption}
    {done remaining : List ChoiceAction} (idle : interpreter.Idle)
    (current : interpreter.currentKind? = some (.choice offer)) (member : option ∈ offer.options)
    (split : option.actionList = done ++ remaining) :
    (runActions remaining interpreter).after.Settled := by
  induction remaining generalizing interpreter done with
  | nil => exact stepForward_settled idle.continuations
  | cons action remaining ih =>
      have split' : option.actionList = (done ++ [action]) ++ remaining := by simp [split]
      cases action with
      | «show» character =>
          have backstage := showCharacter_backstage interpreter character
          refine ih ?_ (backstage.currentKind?.trans current) split'
          exact ⟨backstage.continuations.trans idle.continuations,
            backstage.screen.trans idle.screen, backstage.timer.trans idle.timer,
            backstage.effectPending.trans idle.effectPending⟩
      | hide character => exact ih { idle with } current split'
      | dialogue character text =>
          apply Fits.layered
          change Fits interpreter.currentKind? interpreter.isTimed _ .dialogue
            (.choiceActions remaining :: interpreter.continuations)
          rw [idle.isTimed, idle.continuations]
          exact .actions current member split' (say_isLine interpreter character text)
      | goto target => exact redirect_settled idle.continuations target

/-- A part of the current line leaves the next one, or else nothing. -/
theorem showPart_settled {line : Dialogue} {next : Nat} (below : next < line.parts.length)
    (done : interpreter.continuations = []) (timed : interpreter.isTimed = false)
    (current : interpreter.currentKind? = some (.dialogue line))
    (lined : interpreter.screen.IsLine) :
    (interpreter.showPart next).after.Settled := by
  obtain ⟨part, screen, entry, -, shows, -, same⟩ := showPart_eq current below
  have standing := (assignOptional_backstage interpreter part.assignment).toStanding
  rw [same]
  apply Fits.layered
  change Fits (interpreter.assignOptional part.assignment).currentKind?
    (interpreter.assignOptional part.assignment).isTimed screen .dialogue
    (line.left (next + 1) ++ interpreter.continuations)
  rw [standing.isTimed, timed, done, List.append_nil]
  exact .shown (standing.currentKind?.trans current) (shows lined) (next + 1)

/-- Without an injected line on top the base itself is on screen. -/
theorem Layered.base (layered : Layered current timed screen status left)
    (waiting : status ≠ .dialogue) : Fits current timed screen status left := by
  cases left with
  | nil => exact layered
  | cons entry left =>
      cases entry with
      | interjection covered under => exact absurd layered.1 waiting
      | dialogueParts next => exact layered
      | choiceActions remaining => exact layered

theorem Layered.untimed (layered : Layered current timed screen status left) {later : Bool}
    (fewer : later = true → timed = true) : Layered current later screen status left := by
  induction left generalizing screen status with
  | nil => exact Fits.untimed layered fewer
  | cons entry left ih =>
      cases entry with
      | interjection covered waiting => exact ⟨layered.1, ih layered.2⟩
      | dialogueParts next => exact Fits.untimed layered fewer
      | choiceActions remaining => exact Fits.untimed layered fewer

theorem isTimed_eq_false (untimed : interpreter.isTimed = false) :
    interpreter.timer = none ∧ interpreter.effectPending = false := by
  simp only [isTimed] at untimed
  simpa using untimed

/-- Without a line on screen nothing is left to do. -/
theorem Fits.left_eq_nil (fits : Fits current timed screen status left)
    (silent : status ≠ .dialogue) : left = [] := by
  cases fits with
  | parts | actions => exact absurd rfl silent
  | _ => rfl

theorem Fits.untimed_choice (fits : Fits current timed screen .choice left) : timed = false := by
  cases fits <;> rfl

/-- A story that does not wait is idle. -/
theorem Settled.idle (settled : interpreter.Settled)
    (resting : interpreter.status.isWaiting = false) : interpreter.Idle := by
  simp only [Settled] at settled
  generalize interpreter.currentKind? = current at settled
  generalize untimed : interpreter.isTimed = timed at settled
  generalize shown : interpreter.screen = screen at settled
  generalize waiting : interpreter.status = status at settled resting
  generalize stack : interpreter.continuations = left at settled
  have fits := Layered.base settled (by rintro rfl; cases resting)
  cases fits with
  | idle =>
      obtain ⟨timer, effect⟩ := isTimed_eq_false untimed
      exact ⟨stack, shown, timer, effect⟩
  | _ => cases resting

/-- A base with something left to do shows a line, and has one thing left. -/
theorem Fits.singleton {entry : Continuation} {rest : List Continuation}
    (fits : Fits current timed screen status (entry :: rest)) : status = .dialogue ∧ rest = [] := by
  cases fits <;> exact ⟨rfl, rfl⟩

/-- What is left to do goes on from a base that fits. -/
theorem resume_settled {entry : Continuation}
    (fits : Fits interpreter.currentKind? interpreter.isTimed interpreter.screen .dialogue [entry])
    (done : interpreter.continuations = []) : (interpreter.resume entry).after.Settled := by
  generalize shown : interpreter.screen = screen at fits
  generalize untimed : interpreter.isTimed = timed at fits
  cases fits with
  | parts current lined below =>
      rw [← shown] at lined
      exact showPart_settled below done untimed current lined
  | actions current member split lined =>
      obtain ⟨timer, effect⟩ := isTimed_eq_false untimed
      have idle : interpreter.clearScreen.Idle := ⟨done, rfl, timer, effect⟩
      exact runActions_settled idle current member split

/-- An advance dismisses an injected line, or goes on with what is left to do. -/
theorem advance_settled (settled : interpreter.Settled) : interpreter.advance.after.Settled := by
  simp only [advance]
  split
  · rename_i screen status left stack
    simp only [Settled] at settled
    rw [stack] at settled
    exact settled.2
  · rename_i uncovered
    split
    · exact settled
    · exact settled
    · exact settled
    · exact settled
    · exact settled
    · split
      · rename_i done
        exact stepForward_settled done
      · rename_i entry rest stack
        simp only [Settled] at settled
        rw [stack] at settled
        have fits : Fits interpreter.currentKind? interpreter.isTimed interpreter.screen
            interpreter.status (entry :: rest) := by
          cases entry with
          | interjection covered waiting => exact absurd stack (uncovered covered waiting rest)
          | dialogueParts next => exact settled
          | choiceActions remaining => exact settled
        obtain ⟨waiting, rfl⟩ := fits.singleton
        rw [waiting] at fits
        exact resume_settled fits rfl

theorem restart_settled (settled : interpreter.Settled) (id : Option String) :
    (interpreter.restart id).after.Settled := by
  simp only [restart]
  split
  · rename_i cause after failed
    cases fetchUnit_error failed
    exact settled
  · exact run_settled ⟨rfl, rfl, rfl, rfl⟩

theorem goto_settled (settled : interpreter.Settled) (target : String) :
    (interpreter.goto target).after.Settled := by
  simp only [goto]
  split
  · exact settled
  · exact redirect_settled rfl target

theorem retry_settled (settled : interpreter.Settled) : interpreter.retry.after.Settled := by
  simp only [retry]
  split
  · rename_i halted
    exact run_settled (settled.idle (isWaiting_of_isHalted halted))
  · exact settled

theorem fireTimer_settled (settled : interpreter.Settled) (token : Nat) :
    (interpreter.fireTimer token).after.Settled := by
  simp only [fireTimer]
  split
  · exact settled
  · rename_i timer armed
    have timed : interpreter.isTimed = true := by simp [isTimed, armed]
    split
    · exact settled
    · split
      · exact Layered.untimed settled fun _ => timed
      · exact advance_settled (Layered.untimed settled fun _ => timed)

theorem tick_settled (settled : interpreter.Settled) (now : Instant) :
    (interpreter.tick now).after.Settled := by
  simp only [tick]
  split
  · exact settled
  · split
    · exact fireTimer_settled settled _
    · exact settled

theorem acknowledgeEffect_settled (settled : interpreter.Settled) :
    interpreter.acknowledgeEffect.after.Settled := by
  simp only [acknowledgeEffect]
  split
  · rename_i awaited
    have timed : interpreter.isTimed = true := by simp [isTimed, awaited]
    exact advance_settled (Layered.untimed settled fun _ => timed)
  · exact settled

theorem submitInput_settled (settled : interpreter.Settled) (answer : String) :
    (interpreter.submitInput answer).after.Settled := by
  simp only [submitInput]
  split
  · exact settled
  · rename_i asking
    have asked : interpreter.status = .input := Decidable.not_not.1 asking
    have silent : interpreter.status ≠ .dialogue := by simp [asked]
    exact stepForward_settled ((Layered.base settled silent).left_eq_nil silent)

theorem select_settled (settled : interpreter.Settled) (index : Nat) :
    (interpreter.select index).after.Settled := by
  simp only [select]
  split
  · exact settled
  · rename_i offering
    have offered : interpreter.status = .choice := Decidable.not_not.1 offering
    have silent : interpreter.status ≠ .dialogue := by simp [offered]
    have fits := Layered.base settled silent
    have done := fits.left_eq_nil silent
    rw [offered] at fits
    obtain ⟨timer, effect⟩ := isTimed_eq_false fits.untimed_choice
    have idle : interpreter.clearScreen.Idle := ⟨done, rfl, timer, effect⟩
    split
    · rename_i offer current
      split
      · exact settled
      · rename_i option chosen
        exact runActions_settled idle current (List.mem_of_getElem? chosen)
          (List.nil_append _).symm
    · exact settled

theorem inject_settled (settled : interpreter.Settled) (character : Option String)
    (text : String) : (interpreter.inject character text).after.Settled :=
  ⟨rfl, settled⟩

theorem fetchUnit_settled (settled : interpreter.Settled) (id : String) :
    (interpreter.fetchUnit id).2.Settled := by
  obtain ⟨units, same⟩ := fetchUnit_units interpreter id
  rw [same]
  exact settled

theorem loadCharacters_settled (settled : interpreter.Settled) (ids : List String) :
    (interpreter.loadCharacters ids).2.Settled := by
  obtain ⟨state, visible, events, same⟩ := loadCharacters_eq interpreter ids
  rw [same]
  exact settled

theorem resumeFrom_settled (settled : interpreter.Settled) (snapshot : Snapshot) :
    (interpreter.resumeFrom snapshot).after.Settled := by
  simp only [resumeFrom]
  split
  · rename_i cause after failed
    cases fetchUnit_error failed
    exact settled
  · exact run_settled ⟨rfl, rfl, rfl, rfl⟩

/-- Every operation keeps the layers over a base that fits. -/
theorem perform_settled (interpreter : Interpreter) (operation : Operation)
    (settled : interpreter.Settled) : (Operation.perform interpreter operation).Settled := by
  cases operation with
  | loadUnit id => exact fetchUnit_settled settled id
  | loadCharacters ids => exact loadCharacters_settled settled ids
  | start id => exact restart_settled settled (some id)
  | advance => exact advance_settled settled
  | goto target => exact goto_settled settled target
  | retry => exact retry_settled settled
  | endStory =>
      have idle : Idle { interpreter.clearDisplay with continuations := [] } := ⟨rfl, rfl, rfl, rfl⟩
      exact idle.complete
  | restart id => exact restart_settled settled id
  | reset =>
      have idle : interpreter.reset.Idle := ⟨rfl, rfl, rfl, rfl⟩
      exact idle.settled rfl
  | fireTimer token => exact fireTimer_settled settled token
  | tick now => exact tick_settled settled now
  | acknowledgeEffect => exact acknowledgeEffect_settled settled
  | submitInput answer => exact submitInput_settled settled answer
  | select index => exact select_settled settled index
  | inject character text => exact inject_settled settled character text
  | resumeFrom snapshot => exact resumeFrom_settled settled snapshot
  | pauseAudio => exact settled
  | resumeAudio => exact settled
  | drainEvents => exact settled
  | edit change => exact settled
  | pass now => exact settled

theorem performAll_settled (content : Content) (settings : StorySettings)
    (operations : List Operation) :
    (Operation.performAll (.new content settings) operations).Settled :=
  Operation.performAll_induction perform_settled _ (Idle.settled ⟨rfl, rfl, rfl, rfl⟩ rfl)
    operations

theorem Reachable.settled {content : Content} {settings : StorySettings}
    (reachable : interpreter.Reachable content settings) : interpreter.Settled := by
  obtain ⟨operations, rfl⟩ := reachable
  exact performAll_settled content settings operations

/-- Every interpreter that a host can reach from a new one is coherent. -/
theorem performAll_coherent (content : Content) (settings : StorySettings)
    (operations : List Operation) :
    (Operation.performAll (.new content settings) operations).Coherent := by
  apply Settled.coherent
  apply Operation.performAll_induction perform_settled
  exact Idle.settled ⟨rfl, rfl, rfl, rfl⟩ rfl

end VisualNovel.Interpreter
