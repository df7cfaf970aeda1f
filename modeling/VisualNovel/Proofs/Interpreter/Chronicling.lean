import VisualNovel.Proofs.Interpreter.Plans
import VisualNovel.Proofs.Interpreter.Recording
import VisualNovel.Proofs.Interpreter.Redirecting
import VisualNovel.Proofs.Story.Telling

/-!
# The log of a straight story

A straight story is played by advances, picks, answers and timers. Between two operations its log
holds what its steps tell, up to the current one: a line with parts joins the log with the last of
them, and every other line, like a title card, as soon as it is shown. The names in the log are
those that the speakers keep while the story is played.
-/

namespace VisualNovel

/-- The operations that play a story which was started. -/
def Operation.plays : Operation → Bool
  | .advance => true
  | .select _ => true
  | .submitInput _ => true
  | .fireTimer _ => true
  | .tick _ => true
  | .acknowledgeEffect => true
  | .pass _ => true
  | _ => false

namespace Interpreter

variable {name : String → String} {interpreter after : Interpreter} {story : StoryUnit}
variable {step : Step}

/-- Whether the speakers of a unit have the given names. -/
def Names (interpreter : Interpreter) (story : StoryUnit) (name : String → String) : Prop :=
  ∀ id ∈ story.speakers, interpreter.displayName id = name id

theorem Names.called {line : Dialogue} (names : interpreter.Names story name)
    (member : step ∈ story.steps) (kind : step.kind = .dialogue line) :
    line.character.map interpreter.displayName = line.character.map name := by
  cases speaks : line.character with
  | none => rfl
  | some id =>
      have speaker : id ∈ story.speakers := by
        refine List.mem_filterMap.2 ⟨step, member, ?_⟩
        rw [kind]
        exact speaks
      exact congrArg some (names id speaker)

/-! ## Lines on screen -/

/-- The screen with the first parts of a line. -/
def speech (name : String → String) (line : Dialogue) (shown printed : Nat) : Screen :=
  match line.character.map name with
  | some speaker =>
    { Screen.blank with speaker, dialogue := line.textUpTo shown, printed }
  | none => { Screen.blank with narration := line.textUpTo shown, printed }

variable {line : Dialogue} {part : DialoguePart} {shown printed : Nat}

theorem speech_line : (speech name line shown printed).line = line.textUpTo shown := by
  cases called : line.character.map name with
  | none =>
      simp only [speech]
      rw [called]
      rfl
  | some speaker =>
      simp only [speech]
      rw [called]
      simp only [Screen.line]
      split
      · rename_i empty
        exact (String.isEmpty_iff.1 empty).symm
      · rfl

/-- A part that is added to a line. -/
theorem speech_append (found : line.parts[shown]? = some part) :
    ∃ printed', (speech name line shown printed).append line.character.isSome part.text =
      speech name line (shown + 1) printed' := by
  simp only [speech, Screen.append, Dialogue.textUpTo_succ found]
  cases line.character with
  | none => exact ⟨_, rfl⟩
  | some id => exact ⟨_, rfl⟩

theorem showLine_literal (literal : TextPiece.isLiteral line.text = true)
    (called : line.character.map interpreter.displayName = line.character.map name) :
    interpreter.showLine line.character line.text =
      { interpreter with screen := speech name line 0 0 } := by
  simp only [showLine, speech, Dialogue.textUpTo_zero]
  rw [StateTree.substitute_literal literal, ← called]
  cases line.character <;> rfl

theorem logLine_speech (spoken : interpreter.screen = speech name line shown printed)
    (text : String) :
    interpreter.logLine line.character.isSome text = { interpreter with
      history := interpreter.history.push ((line.entry name text).atStep interpreter.step) } := by
  simp only [logLine, Dialogue.entry]
  rw [spoken]
  simp only [speech]
  cases line.character <;> rfl

/-- A line that is performed for the first time is on screen as it is told, and in the log when it
has no parts. -/
theorem showDialogue_literal (fresh : interpreter.restoring = false)
    (literal : TextPiece.isLiteral line.text = true)
    (called : line.character.map (interpreter.assignOptional line.assignment).displayName =
      line.character.map name) :
    (interpreter.showDialogue line).2 = { interpreter.assignOptional line.assignment with
      restoring := false, restoreParts := 0, screen := speech name line 0 0
      history := line.logged name interpreter.step 0 interpreter.history
      continuations := line.left 0 ++ interpreter.continuations } := by
  have backstage := assignOptional_backstage interpreter line.assignment
  simp only [showDialogue, fresh, Bool.false_eq_true, ↓reduceIte, assignOptional_settled, say]
  generalize interpreter.assignOptional line.assignment = prepared at backstage called
  have settled : line.character.map
      (displayName { prepared with restoring := false, restoreParts := 0 }) =
        line.character.map name := called
  rw [← backstage.history, ← backstage.continuations, ← backstage.step,
    showLine_literal literal settled]
  split
  · rename_i single
    have none_left : line.parts.length = 0 := by simpa using single
    have all : ¬ 0 < line.parts.length := by omega
    simp only [Dialogue.left, Dialogue.logged]
    rw [if_neg all, if_neg all, none_left, Dialogue.textUpTo_zero,
      StateTree.substitute_literal literal]
    exact logLine_speech rfl line.text
  · rename_i several
    have some_left : 0 < line.parts.length := by
      rw [List.isEmpty_iff_length_eq_zero] at several
      omega
    simp only [Dialogue.left, Dialogue.logged, some_left, ↓reduceIte, List.take_zero,
      List.foldl_nil]
    rfl

/-- A line leaves the names of the speakers as its assignment has made them. -/
theorem showDialogue_displayName (fresh : interpreter.restoring = false) (line : Dialogue) :
    (interpreter.showDialogue line).2.displayName =
      (interpreter.assignOptional line.assignment).displayName := by
  obtain ⟨screen, entry, -, -, same⟩ := showDialogue_fresh fresh line
  rw [same]
  rfl

/-- A part is added to a line that is on screen as it is told, and the last part puts the whole line
into the log. -/
theorem showPart_literal (current : interpreter.currentKind? = some (.dialogue line))
    (found : line.parts[shown]? = some part) (literal : TextPiece.isLiteral part.text = true)
    (spoken : interpreter.screen = speech name line shown printed) :
    ∃ printed', interpreter.showPart shown = wait { interpreter.assignOptional part.assignment with
      screen := speech name line (shown + 1) printed'
      history := line.logged name interpreter.step (shown + 1) interpreter.history
      continuations := line.left (shown + 1) ++ interpreter.continuations } .dialogue := by
  change interpreter.currentStep?.map Step.kind = _ at current
  have backstage := assignOptional_backstage interpreter part.assignment
  obtain ⟨printed', appended⟩ := speech_append found
  refine ⟨printed', ?_⟩
  simp only [showPart, current, found]
  have shows : (interpreter.assignOptional part.assignment).appendPart line.character.isSome part =
      { interpreter.assignOptional part.assignment with
        screen := speech name line (shown + 1) printed' } := by
    simp only [appendPart]
    rw [backstage.screen, spoken, StateTree.substitute_literal literal, appended]
  rw [shows, ← backstage.history, ← backstage.continuations, ← backstage.step]
  simp only [Dialogue.left, Dialogue.logged]
  split
  · rfl
  · rename_i all
    apply congrArg (wait · .dialogue)
    rw [speech_line, Dialogue.textUpTo_of_le (Nat.not_lt.1 all)]
    exact logLine_speech rfl _

theorem assignOptional_restoring (interpreter : Interpreter) (expression : Option String) :
    (interpreter.assignOptional expression).restoring = interpreter.restoring := by
  cases expression <;> rfl

/-- A title card is in the log as it is told. -/
theorem showTitles_literal {card : Titles} (literal : TextPiece.isLiteral card.text = true)
    (interpreter : Interpreter) :
    ∃ screen timer nextToken, (interpreter.showTitles card).2 =
      { interpreter.assignOptional card.assignment with
        screen, timer, nextToken, effectPending := false
        history := interpreter.history.push
          ((HistoryEntry.titles card.text).atStep interpreter.step) } := by
  have backstage := assignOptional_backstage interpreter card.assignment
  rw [← backstage.history, ← backstage.step, showTitles_eq]
  simp only [titled, inscribed]
  rw [StateTree.substitute_literal literal]
  cases card.durationMs? with
  | none => exact ⟨_, _, _, rfl⟩
  | some durationMs => exact ⟨_, _, _, rfl⟩

/-! ## Runs -/

theorem currentKind?_eq (running : interpreter.story = some story)
    (found : story.step? interpreter.step = some step) :
    interpreter.currentKind? = some step.kind := by
  simp only [currentKind?]
  rw [currentStep?_eq running, found]
  rfl

/-- A straight story in the course of a run: the log holds what the steps in front of the current
one tell. -/
structure Telling (name : String → String) (story : StoryUnit) (interpreter : Interpreter) :
    Prop where
  running : interpreter.story = some story
  callStack : interpreter.callStack = []
  restoring : interpreter.restoring = false
  done : interpreter.continuations = []
  log : interpreter.history.Holds (story.told name interpreter.step)

/-- How far a straight story has come between two operations. -/
inductive Stage (name : String → String) (story : StoryUnit) (interpreter : Interpreter) :
    Prop where
  /-- The story does not wait. -/
  | rests :
      interpreter.status.isWaiting = false → interpreter.continuations = [] →
      Stage name story interpreter
  /-- Nothing is left of the current step, and the log holds what it tells. -/
  | whole {step : Step} :
      story.step? interpreter.step = some step → step.kind.waits? = some interpreter.status →
      interpreter.continuations = [] →
      interpreter.history.Holds (story.told name (interpreter.step + 1)) →
      Stage name story interpreter
  /-- The line of the current step is on screen but for some of its parts, and not in the log. -/
  | begun {step : Step} {line : Dialogue} {next printed : Nat} :
      story.step? interpreter.step = some step → step.kind = .dialogue line →
      interpreter.status = .dialogue → next < line.parts.length →
      interpreter.continuations = [.dialogueParts next] →
      interpreter.screen = speech name line next printed →
      interpreter.history.Holds (story.told name interpreter.step) →
      Stage name story interpreter

/-- A straight story between two operations. -/
structure Told (name : String → String) (story : StoryUnit) (interpreter : Interpreter) :
    Prop where
  running : interpreter.story = some story
  callStack : interpreter.callStack = []
  restoring : interpreter.restoring = false
  stage : Stage name story interpreter

variable {dispatched : Nat} {outcome : Outcome} {status : Status}

/-- A line is told when all of its parts are shown, and begun before. -/
theorem Stage.spoken {before : History} (found : story.step? interpreter.step = some step)
    (kind : step.kind = .dialogue line) (waits : interpreter.status = .dialogue)
    (left : interpreter.continuations = line.left shown)
    (spoken : interpreter.screen = speech name line shown printed)
    (log : before.Holds (story.told name interpreter.step))
    (logged : interpreter.history = line.logged name interpreter.step shown before) :
    Stage name story interpreter := by
  simp only [Dialogue.left, Dialogue.logged] at left logged
  by_cases below : shown < line.parts.length
  · rw [if_pos below] at left logged
    exact .begun found kind waits below left spoken (logged ▸ log)
  · rw [if_neg below] at left logged
    refine .whole found (by rw [kind, waits]; rfl) left ?_
    have told := StoryUnit.told_succ name found
    simp only [Step.told?, kind] at told
    rw [logged, told]
    exact log.push _

/-- A step that tells nothing leaves the log as it is told. -/
theorem Telling.silent (telling : Telling name story interpreter)
    (found : story.step? interpreter.step = some step)
    (silent : step.told? name interpreter.step = none) :
    interpreter.history.Holds (story.told name (interpreter.step + 1)) := by
  rw [StoryUnit.told_succ name found, silent]
  simpa using telling.log

/-- A step that another one follows tells nothing. -/
theorem told?_next (fresh : interpreter.restoring = false)
    (passed : interpreter.dispatch step = (.ok .next, after)) (name : String → String)
    (index : Nat) : step.told? name index = none := by
  cases kind : step.kind with
  | dialogue line =>
      simp only [dispatch, kind] at passed
      rw [showDialogue_eq] at passed
      cases passed
  | titles card =>
      simp only [dispatch, kind] at passed
      rw [fresh, if_neg Bool.false_ne_true] at passed
      cases passed
  | _ =>
      simp only [Step.told?]
      rw [kind]

/-- A straight step does not move the story. -/
theorem afterStep_straight (straight : step.kind.isStraight = true)
    (performed : afterStep (interpreter.dispatch step) = .performed after) :
    ∃ passed, interpreter.dispatch step = (.ok .next, passed) ∧
      after = { passed with step := passed.step + 1 } := by
  have performs := dispatch_performed interpreter step
  generalize interpreter.dispatch step = result at performed performs
  cases performs with
  | passed effect =>
      cases performed
      exact ⟨_, rfl, rfl⟩
  | jump kind | back kind | finish kind =>
      rw [kind] at straight
      cases straight
  | paused pause => cases performed
  | sceneLost => cases performed

/-- A round of a straight story passes a step that tells nothing. -/
theorem Telling.performed (telling : Telling name story interpreter)
    (straight : story.isStraight = true)
    (turned : interpreter.turn dispatched = .performed after) : Telling name story after := by
  have round := turn_performed turned
  have fresh := round.fresh telling.restoring
  obtain ⟨step, found, performed⟩ : ∃ step, story.step? interpreter.step = some step ∧
      afterStep (interpreter.dispatch step) = .performed after := by
    cases found : story.step? interpreter.step with
    | none =>
        simp only [turn, telling.running, found, returnToCaller, telling.callStack] at turned
        cases turned
    | some step =>
        have current := (currentStep?_eq telling.running).trans found
        exact ⟨step, rfl, (turn_step current round.below).symm.trans turned⟩
  obtain ⟨passed, dispatches, rfl⟩ :=
    afterStep_straight (StoryUnit.isStraight_step straight found) performed
  have backstage := (dispatch_next dispatches).backstage
  refine ⟨backstage.story.trans telling.running, backstage.callStack.trans telling.callStack, fresh,
    backstage.continuations.trans telling.done, ?_⟩
  change passed.history.Holds (story.told name (passed.step + 1))
  rw [backstage.history, backstage.step]
  exact telling.silent found (told?_next telling.restoring dispatches name _)

theorem Telling.reaches {start : Interpreter} {rounds steps : Nat}
    (telling : Telling name story start) (straight : story.isStraight = true)
    (reaches : Reaches start rounds steps interpreter) : Telling name story interpreter := by
  induction reaches with
  | start => exact telling
  | performed reaches turned telling => exact telling.performed straight turned
  | returned reaches turned telling =>
      -- There is no caller to return to.
      have round := turn_returned turned
      cases round with
      | returned running exhausted returned =>
          rcases returnToCaller_ok returned with ⟨flow, -⟩ | ⟨-, _, _, _, _, stack, -⟩
          · cases flow
          · rw [telling.callStack] at stack
            cases stack

/-- A line without parts is told at once, and one with parts is begun. -/
theorem Telling.showDialogue (telling : Telling name story interpreter)
    (found : story.step? interpreter.step = some step) (kind : step.kind = .dialogue line)
    (literal : TextPiece.isLiteral line.text = true)
    (names : (interpreter.showDialogue line).2.Names story name) :
    Told name story ((interpreter.showDialogue line).2.wait .dialogue).after := by
  have standing := (assignOptional_backstage interpreter line.assignment).toStanding
  have called := names.called (List.mem_of_getElem? found) kind
  rw [showDialogue_displayName telling.restoring] at called
  rw [showDialogue_literal telling.restoring literal called, telling.done, List.append_nil]
  have log := telling.log
  rw [← standing.step] at found log ⊢
  exact ⟨standing.story.trans telling.running, standing.callStack.trans telling.callStack, rfl,
    .spoken found kind rfl rfl rfl log rfl⟩

/-- The next part of a line is shown, and with the last one the line is told. -/
theorem Telling.showPart {next : Nat} (telling : Telling name story interpreter)
    (straight : story.isStraight = true) (found : story.step? interpreter.step = some step)
    (kind : step.kind = .dialogue line) (below : next < line.parts.length)
    (spoken : interpreter.screen = speech name line next printed) :
    Told name story (interpreter.showPart next).after := by
  have current := currentKind?_eq telling.running found
  have literal := StoryUnit.isStraight_step straight found
  rw [kind] at current literal
  obtain ⟨-, parts⟩ := Bool.and_eq_true_iff.1 literal
  have among : line.parts[next]? = some line.parts[next] := List.getElem?_eq_getElem below
  obtain ⟨printed', shows⟩ := showPart_literal current among
    (List.all_eq_true.1 parts _ (List.getElem_mem below)) spoken
  have standing := (assignOptional_backstage interpreter line.parts[next].assignment).toStanding
  have fresh := assignOptional_restoring interpreter line.parts[next].assignment
  rw [shows, telling.done, List.append_nil]
  have log := telling.log
  rw [← standing.step] at found log ⊢
  exact ⟨standing.story.trans telling.running, standing.callStack.trans telling.callStack,
    fresh.trans telling.restoring, .spoken found kind rfl rfl rfl log rfl⟩

/-- A title card is told at once. -/
theorem Telling.showTitles {card : Titles} (telling : Telling name story interpreter)
    (found : story.step? interpreter.step = some step) (kind : step.kind = .titles card)
    (literal : TextPiece.isLiteral card.text = true) :
    Told name story ((interpreter.showTitles card).2.wait (.titles card.durationMs?)).after := by
  have standing := (assignOptional_backstage interpreter card.assignment).toStanding
  have fresh := assignOptional_restoring interpreter card.assignment
  obtain ⟨screen, timer, nextToken, shows⟩ := showTitles_literal literal interpreter
  rw [shows]
  have told := StoryUnit.told_succ name found
  simp only [Step.told?, kind] at told
  generalize interpreter.assignOptional card.assignment = prepared at standing fresh
  have position : story.step? prepared.step = some step := standing.step.symm ▸ found
  have log := telling.log
  rw [← standing.step] at told log ⊢
  refine ⟨standing.story.trans telling.running, standing.callStack.trans telling.callStack,
    fresh.trans telling.restoring, .whole position (by rw [kind]; rfl)
      (standing.continuations.trans telling.done) ?_⟩
  change (History.push _ _).Holds (story.told name (prepared.step + 1))
  rw [told]
  exact log.push _

/-- A step that waits is told, or its line is begun. -/
theorem Telling.paused (telling : Telling name story interpreter)
    (straight : story.isStraight = true) (found : story.step? interpreter.step = some step)
    (pause : Pause interpreter step status after)
    (names : after.Names story name) : Told name story (after.wait status).after := by
  have literal := StoryUnit.isStraight_step straight found
  have silent := fun quiet => telling.silent found quiet
  cases pause with
  | @dialogue line kind =>
      rw [kind] at literal
      obtain ⟨opening, -⟩ := Bool.and_eq_true_iff.1 literal
      exact telling.showDialogue found kind opening names
  | @titles card kind fresh =>
      rw [kind] at literal
      exact telling.showTitles found kind literal
  | @input path text kind =>
      exact ⟨telling.running, telling.callStack, rfl, .whole found (by rw [kind]; rfl) telling.done
        (silent (by simp only [Step.told?]; rw [kind]))⟩
  | @choice offer kind =>
      exact ⟨telling.running, telling.callStack, rfl, .whole found (by rw [kind]; rfl) telling.done
        (silent (by simp only [Step.told?]; rw [kind]))⟩

theorem Telling.ending (telling : Telling name story interpreter)
    (straight : story.isStraight = true) (ending : Ending dispatched interpreter outcome)
    (names : outcome.after.Names story name) : Told name story outcome.after := by
  have halts : ∀ {stuck : Interpreter} (error : StoryError), Telling name story stuck →
      Told name story (stuck.halt error).after :=
    fun _ stands => ⟨stands.running, stands.callStack, stands.restoring, .rests rfl stands.done⟩
  cases ending with
  | completed =>
      refine ⟨?_, ?_, rfl, .rests rfl rfl⟩
      · simp only [complete]
        split <;> exact telling.running
      · simp only [complete]
        split <;> exact telling.callStack
  | limited => exact halts _ telling
  | paused running found below pause =>
      cases telling.running.symm.trans running
      exact telling.paused straight found pause names
  | failed same =>
      rcases same with rfl | rfl | rfl
      · exact halts _ telling
      · exact halts _ { telling with }
      · exact halts _ { telling with restoring := rfl }

/-- A run of a straight story ends with everything told that is in front of the current step. -/
theorem Telling.run (telling : Telling name story interpreter) (straight : story.isStraight = true)
    (names : interpreter.run.after.Names story name) : Told name story interpreter.run.after := by
  obtain ⟨rounds, steps, course⟩ := run_course interpreter
  generalize interpreter.run = outcome at course names
  cases course with
  | stopped reaches turned =>
      exact (telling.reaches straight reaches).ending straight (turn_stopped turned).2 names
  | ended reaches turned =>
      exact (telling.reaches straight reaches).ending straight (turn_ended turned) names

/-! ## Operations -/

/-- Neither the timer nor what it tells the host shows how far the story has come. -/
theorem Told.timed (told : Told name story interpreter) (timer : Option TitleTimer)
    (effectPending : Bool) (events : List StoryEvent) (clock : Instant) :
    Told name story { interpreter with timer, effectPending, events, clock } := by
  refine ⟨told.running, told.callStack, told.restoring, ?_⟩
  cases told.stage with
  | rests resting done => exact .rests resting done
  | whole found waits done log => exact .whole found waits done log
  | begun found kind waits below left spoken log =>
      exact .begun found kind waits below left spoken log

/-- Behind a step that is told the next one follows. -/
theorem Telling.forward (running : interpreter.story = some story)
    (callStack : interpreter.callStack = []) (done : interpreter.continuations = [])
    (log : interpreter.history.Holds (story.told name (interpreter.step + 1))) :
    Telling name story interpreter.forward :=
  ⟨running, callStack, rfl, done, log⟩

theorem Told.advance (told : Told name story interpreter) (straight : story.isStraight = true)
    (names : interpreter.advance.after.Names story name) :
    Told name story interpreter.advance.after := by
  cases told.stage with
  | rests resting done =>
      have stays : interpreter.advance.after = interpreter := by
        simp only [Interpreter.advance]
        rw [done]
        cases status : interpreter.status with
        | dialogue | titles | input | choice =>
            rw [status] at resting
            cases resting
        | _ => rfl
      rw [stays]
      exact told
  | whole found waits done log =>
      have forward : Telling name story interpreter.forward :=
        .forward told.running told.callStack done log
      rw [advance_plan] at names ⊢
      simp only [advancePlan, done] at names ⊢
      cases status : interpreter.status with
      | dialogue | titles =>
          rw [status] at names
          exact forward.run straight names
      | _ => exact told
  | @begun step line next printed found kind status below left spoken log =>
      have shows : interpreter.advance =
          { interpreter with continuations := [] }.showPart next := by
        simp only [Interpreter.advance]
        rw [left, status]
        rfl
      have alone : Telling name story { interpreter with continuations := [] } :=
        ⟨told.running, told.callStack, told.restoring, rfl, log⟩
      rw [shows]
      exact alone.showPart straight found kind below spoken

/-- Picking an option without actions goes on behind the choice. -/
theorem Told.select (told : Told name story interpreter) (straight : story.isStraight = true)
    (index : Nat) (names : (interpreter.select index).after.Names story name) :
    Told name story (interpreter.select index).after := by
  rw [select_plan] at names ⊢
  simp only [selectPlan] at names ⊢
  by_cases offering : interpreter.status ≠ .choice
  · rw [if_pos offering]
    exact told
  · rw [if_neg offering] at names ⊢
    have offered : interpreter.status = .choice := Decidable.not_not.1 offering
    cases told.stage with
    | rests resting done =>
        rw [offered] at resting
        cases resting
    | begun found kind waits =>
        rw [offered] at waits
        cases waits
    | @whole step found waits done log =>
        have plain := StoryUnit.isStraight_step straight found
        rw [currentKind?_eq told.running found] at names ⊢
        cases kind : step.kind with
        | choice offer =>
            rw [kind] at plain names
            dsimp only at names ⊢
            cases picked : offer.options[index]? with
            | none => exact told
            | some option =>
                have none : option.actionList = [] := by
                  have empty := List.all_eq_true.1 plain option (List.mem_of_getElem? picked)
                  simpa using empty
                rw [picked] at names
                dsimp only at names ⊢
                rw [none] at names ⊢
                have forward : Telling name story interpreter.clearScreen.forward :=
                  .forward told.running told.callStack done log
                exact forward.run straight names
        | _ => exact told

/-- An answer goes on behind the question. -/
theorem Told.submitInput (told : Told name story interpreter) (straight : story.isStraight = true)
    (answer : String) (names : (interpreter.submitInput answer).after.Names story name) :
    Told name story (interpreter.submitInput answer).after := by
  rw [submitInput_plan] at names ⊢
  simp only [submitPlan] at names ⊢
  by_cases asking : interpreter.status ≠ .input
  · rw [if_pos asking]
    exact told
  · rw [if_neg asking] at names ⊢
    have asked : interpreter.status = .input := Decidable.not_not.1 asking
    cases told.stage with
    | rests resting done =>
        rw [asked] at resting
        cases resting
    | begun found kind waits =>
        rw [asked] at waits
        cases waits
    | whole found waits done log =>
        have forward : Telling name story (interpreter.answered answer).forward :=
          .forward told.running told.callStack done log
        exact forward.run straight names

theorem Told.fireTimer (told : Told name story interpreter) (straight : story.isStraight = true)
    (token : Nat) (names : (interpreter.fireTimer token).after.Names story name) :
    Told name story (interpreter.fireTimer token).after := by
  have fired : Told name story { interpreter with timer := none } :=
    told.timed none interpreter.effectPending interpreter.events interpreter.clock
  rw [fireTimer_plan] at names ⊢
  simp only [firePlan] at names ⊢
  cases armed : interpreter.timer with
  | none => exact told
  | some timer =>
      rw [armed] at names
      dsimp only at names ⊢
      split
      · exact told
      · rename_i due
        rw [if_neg due] at names
        split
        · rename_i awaits
          simp only [Interpreter.fireTimer]
          rw [armed]
          dsimp only
          rw [if_neg due, if_pos awaits]
          exact told.timed none true _ interpreter.clock
        · rename_i plain
          rw [if_neg plain, ← advance_plan] at names
          rw [← advance_plan]
          exact fired.advance straight names

theorem Told.tick (told : Told name story interpreter) (straight : story.isStraight = true)
    (now : Instant) (names : (interpreter.tick now).after.Names story name) :
    Told name story (interpreter.tick now).after := by
  simp only [Interpreter.tick] at names ⊢
  cases armed : interpreter.timer with
  | none => exact told
  | some timer =>
      rw [armed] at names
      dsimp only at names ⊢
      split
      · rename_i due
        rw [if_pos due] at names
        exact told.fireTimer straight timer.token names
      · exact told

theorem Told.acknowledgeEffect (told : Told name story interpreter)
    (straight : story.isStraight = true)
    (names : interpreter.acknowledgeEffect.after.Names story name) :
    Told name story interpreter.acknowledgeEffect.after := by
  have acknowledged : Told name story { interpreter with effectPending := false } :=
    told.timed interpreter.timer false interpreter.events interpreter.clock
  simp only [Interpreter.acknowledgeEffect] at names ⊢
  split
  · rename_i pending
    rw [if_pos pending] at names
    exact acknowledged.advance straight names
  · exact told

/-- Every operation that plays a straight story keeps it told. -/
theorem Told.perform (told : Told name story interpreter) (straight : story.isStraight = true)
    {operation : Operation} (plays : operation.plays = true)
    (names : (operation.perform interpreter).Names story name) :
    Told name story (operation.perform interpreter) := by
  cases operation with
  | advance => exact told.advance straight names
  | select index => exact told.select straight index names
  | submitInput answer => exact told.submitInput straight answer names
  | fireTimer token => exact told.fireTimer straight token names
  | tick now => exact told.tick straight now names
  | acknowledgeEffect => exact told.acknowledgeEffect straight names
  | pass now => exact told.timed interpreter.timer interpreter.effectPending interpreter.events now
  | _ => cases plays

/-- A start tells the first lines of a straight story over an empty log. -/
theorem Sound.start_told {content : Content} {settings : StorySettings} {id : String}
    (sound : interpreter.Sound content settings) (empty : interpreter.history.entries = [])
    (loaded : content.unit? id = some story) (straight : story.isStraight = true)
    (names : (interpreter.start id).after.Names story name) :
    Told name story (interpreter.start id).after := by
  obtain ⟨units, fetched, -⟩ := sound.supplied.fetchUnit loaded
  have begins : interpreter.start id = Interpreter.run { interpreter.clearDisplay with
      units, callStack := [], continuations := [], restoring := false, story := some story
      step := 0 } := by
    simp only [start, restart, Option.some_or, Option.getD_some]
    rw [fetched]
    rfl
  have log : interpreter.history.Holds (story.told name 0) :=
    ⟨World.Sound.history sound, by simp [empty, StoryUnit.told_zero, History.newest]⟩
  have telling : Telling name story { interpreter.clearDisplay with
      units, callStack := [], continuations := [], restoring := false, story := some story
      step := 0 } :=
    ⟨rfl, rfl, rfl, rfl, log⟩
  rw [begins] at names ⊢
  exact telling.run straight names

/-- A straight story that is played keeps told as long as its speakers keep their names. -/
theorem Told.performAll (told : Told name story interpreter) (straight : story.isStraight = true)
    {operations : List Operation} (plays : ∀ operation ∈ operations, operation.plays = true)
    (names : ∀ played, played <+: operations →
      (Operation.performAll interpreter played).Names story name) :
    Told name story (Operation.performAll interpreter operations) := by
  induction operations generalizing interpreter with
  | nil => exact told
  | cons operation operations ih =>
      have first := told.perform straight (plays operation (List.mem_cons_self ..))
        (names [operation] (List.prefix_append [operation] operations))
      refine ih first (fun other member => plays other (List.mem_cons_of_mem _ member)) ?_
      intro played earlier
      exact names (operation :: played) (List.cons_prefix_cons.2 ⟨rfl, earlier⟩)

end Interpreter

end VisualNovel
