import VisualNovel.Proofs.Interpreter.World
import VisualNovel.Proofs.Saves.Restoring
import VisualNovel.Proofs.State.Marking

/-!
# How often an operation marks the state

A step marks the state at most once, and a run performs no more steps than its limit allows. So
every operation of a host changes the state by a number of marks that is known in front of it.
-/

namespace VisualNovel

/-- Content that delivers characters with their maps in order. -/
def Content.InOrder (content : Content) : Prop :=
  ∀ {id data}, content.character id = .ok data → data.InOrder

namespace Interpreter

variable {interpreter between after : Interpreter} {step : Step} {first second most : Nat}

/-- The second interpreter has the content and the limits of the first, and its state comes from that
of the first by a number of marked changes. -/
structure Spends (most : Nat) (before after : Interpreter) : Prop where
  content : after.content = before.content
  settings : after.settings = before.settings
  state : before.state.Marks most after.state

/-- What leaves the state alone spends nothing. -/
theorem Spends.still (content : after.content = interpreter.content)
    (settings : after.settings = interpreter.settings) (state : after.state = interpreter.state) :
    Spends most interpreter after := by
  refine ⟨content, settings, ?_⟩
  rw [state]
  exact (StateTree.Marks.refl _).mono (Nat.zero_le most)

theorem Spends.mono (spends : Spends first interpreter after) (fewer : first ≤ most) :
    Spends most interpreter after :=
  ⟨spends.content, spends.settings, spends.state.mono fewer⟩

theorem Spends.trans (start : Spends first interpreter between)
    (rest : Spends second between after) : Spends (first + second) interpreter after :=
  ⟨rest.content.trans start.content, rest.settings.trans start.settings,
    start.state.trans rest.state⟩

/-! ## Steps and runs -/

theorem Moved.spends (moved : Moved interpreter after) : Spends 0 interpreter after :=
  .still moved.content moved.settings moved.state

theorem assign_spends (interpreter : Interpreter) (expression : String) :
    Spends 1 interpreter (interpreter.assign expression) :=
  ⟨rfl, rfl, StateTree.assigned_marks interpreter.state expression⟩

theorem assignOptional_spends (interpreter : Interpreter) (expression : Option String) :
    Spends 1 interpreter (interpreter.assignOptional expression) := by
  cases expression with
  | none => exact .still rfl rfl rfl
  | some expression => exact assign_spends interpreter expression

theorem showCharacter_spends (interpreter : Interpreter) (id : String) :
    Spends 0 interpreter (interpreter.showCharacter id) := by
  simp only [showCharacter]
  split <;> exact .still rfl rfl rfl

theorem Effect.spends (effect : Effect interpreter after) : Spends 1 interpreter after := by
  cases effect with
  | assigned expression => exact assign_spends interpreter expression
  | shown id => exact (showCharacter_spends interpreter id).mono (Nat.zero_le 1)
  | _ => exact .still rfl rfl rfl

theorem showDialogue_spends (interpreter : Interpreter) (line : Dialogue) :
    Spends 1 interpreter (interpreter.showDialogue line).2 := by
  cases restoring : interpreter.restoring with
  | true =>
      obtain ⟨screen, -, same⟩ := showDialogue_restoring restoring line
      rw [same]
      exact .still rfl rfl rfl
  | false =>
      have assigned := assignOptional_spends interpreter line.assignment
      obtain ⟨screen, entry, -, -, same⟩ := showDialogue_fresh restoring line
      rw [same]
      exact ⟨assigned.content, assigned.settings, assigned.state⟩

theorem showTitles_spends (interpreter : Interpreter) (card : Titles) :
    Spends 1 interpreter (interpreter.showTitles card).2 := by
  have assigned := assignOptional_spends interpreter card.assignment
  simp only [showTitles]
  cases card.durationMs? <;> exact ⟨assigned.content, assigned.settings, assigned.state⟩

theorem Pause.spends {status : Status} (pause : Pause interpreter step status after) :
    Spends 1 interpreter after := by
  cases pause with
  | @dialogue line kind => exact showDialogue_spends interpreter line
  | @titles card kind fresh => exact showTitles_spends interpreter card
  | input kind => exact .still rfl rfl rfl
  | choice kind => exact .still rfl rfl rfl

theorem complete_spends (interpreter : Interpreter) :
    Spends 0 interpreter interpreter.complete.after := by
  have same := complete_world interpreter
  exact .still (congrArg World.content same) (congrArg World.settings same)
    (congrArg World.state same)

/-- A round spends no more than it counts as steps. -/
theorem Round.spends {dispatched next : Nat} (round : Round dispatched interpreter next after) :
    Spends (next - dispatched) interpreter after := by
  cases round with
  | returned current exhausted returned =>
      exact (returnToCaller_moved returned).1.spends.mono (Nat.zero_le _)
  | passed current found below effect =>
      have spends := effect.spends
      rw [Nat.add_sub_cancel_left]
      exact ⟨spends.content, spends.settings, spends.state⟩
  | jumped current found below jumped =>
      exact (dispatch_moved jumped).1.spends.mono (Nat.zero_le _)

/-- A run spends at most one mark for each step that its limit allows. -/
theorem run_spends (interpreter : Interpreter) :
    Spends interpreter.settings.maxAutoSteps interpreter interpreter.run.after := by
  apply run_induction
    (fun dispatched reached => dispatched ≤ interpreter.settings.maxAutoSteps ∧
      Spends dispatched interpreter reached)
    fun outcome => Spends interpreter.settings.maxAutoSteps interpreter outcome.after
  · rintro dispatched reached next after ⟨within, spent⟩ round
    have settings := spent.settings
    have spends := spent.trans round.spends
    cases round with
    | returned current exhausted returned =>
        rw [Nat.sub_self] at spends
        exact ⟨within, spends⟩
    | passed current found below effect =>
        rw [settings] at below
        rw [Nat.add_sub_cancel_left] at spends
        exact ⟨below, spends⟩
    | jumped current found below jumped =>
        rw [settings] at below
        rw [Nat.add_sub_cancel_left] at spends
        exact ⟨below, spends⟩
  · rintro dispatched reached outcome ⟨within, spent⟩ ending
    cases ending with
    | completed finished => exact (spent.trans (complete_spends reached)).mono within
    | limited found above => exact ⟨spent.content, spent.settings, spent.state.mono within⟩
    | paused current found below pause =>
        rw [spent.settings] at below
        have spends := (spent.trans pause.spends).mono below
        exact ⟨spends.content, spends.settings, spends.state⟩
    | failed same =>
        rcases same with rfl | rfl | rfl <;>
          exact ⟨spent.content, spent.settings, spent.state.mono within⟩
  · exact ⟨Nat.zero_le _, .still rfl rfl rfl⟩

/-- What is spent in front of a run adds to what the run spends. -/
theorem Spends.andThen {start : Interpreter} (spent : Spends first interpreter start)
    (rest : Spends start.settings.maxAutoSteps start after) :
    Spends (first + interpreter.settings.maxAutoSteps) interpreter after := by
  rw [← spent.settings]
  exact spent.trans rest

/-- A run that begins with the content, the limits and the state of an interpreter spends no more
than a run of it. -/
theorem Spends.running {start : Interpreter} (content : start.content = interpreter.content)
    (settings : start.settings = interpreter.settings) (state : start.state = interpreter.state) :
    Spends interpreter.settings.maxAutoSteps interpreter start.run.after := by
  have spent : Spends 0 interpreter start := .still content settings state
  rw [← Nat.zero_add interpreter.settings.maxAutoSteps]
  exact spent.andThen (run_spends start)

/-! ## Operations -/

theorem stepForward_spends (interpreter : Interpreter) :
    Spends interpreter.settings.maxAutoSteps interpreter interpreter.stepForward.after :=
  .running rfl rfl rfl

theorem redirect_spends (interpreter : Interpreter) (target : String) :
    Spends interpreter.settings.maxAutoSteps interpreter (interpreter.redirect target).after := by
  simp only [redirect]
  split
  · rename_i flow after jumped
    have moved := (jump_moved jumped).1
    exact .running moved.content moved.settings moved.state
  · rename_i cause after failed
    cases jump_error failed
    exact .still rfl rfl rfl

theorem runActions_spends (actions : List ChoiceAction) (interpreter : Interpreter) :
    Spends interpreter.settings.maxAutoSteps interpreter
      (runActions actions interpreter).after := by
  induction actions generalizing interpreter with
  | nil => exact stepForward_spends interpreter
  | cons action actions ih =>
      cases action with
      | «show» character =>
          have shown := (showCharacter_spends interpreter character).andThen (ih _)
          rw [Nat.zero_add] at shown
          exact shown
      | hide character =>
          have same : Spends 0 interpreter (interpreter.hideCharacter character) :=
            .still rfl rfl rfl
          have hidden := same.andThen (ih _)
          rw [Nat.zero_add] at hidden
          exact hidden
      | dialogue character text => exact .still rfl rfl rfl
      | goto target => exact redirect_spends interpreter target

theorem showPart_spends (interpreter : Interpreter) (next : Nat) :
    Spends (interpreter.settings.maxAutoSteps + 1) interpreter
      (interpreter.showPart next).after := by
  have forward := (stepForward_spends interpreter).mono (Nat.le_succ _)
  unfold showPart
  split
  · split
    · exact forward
    · rename_i part found
      have assigned := (assignOptional_spends interpreter part.assignment).mono
        (Nat.le_add_left 1 interpreter.settings.maxAutoSteps)
      dsimp only
      split <;> exact ⟨assigned.content, assigned.settings, assigned.state⟩
  · exact forward

theorem advance_spends (interpreter : Interpreter) :
    Spends (interpreter.settings.maxAutoSteps + 1) interpreter interpreter.advance.after := by
  simp only [advance]
  split
  · exact .still rfl rfl rfl
  · split
    · exact .still rfl rfl rfl
    · exact .still rfl rfl rfl
    · exact .still rfl rfl rfl
    · exact .still rfl rfl rfl
    · exact .still rfl rfl rfl
    · split
      · exact (stepForward_spends interpreter).mono (Nat.le_succ _)
      · rename_i entry rest stack
        cases entry with
        | dialogueParts next =>
            have shown := showPart_spends { interpreter with continuations := rest } next
            exact ⟨shown.content, shown.settings, shown.state⟩
        | choiceActions remaining =>
            have acted := (runActions_spends remaining
              { interpreter with continuations := rest }.clearScreen).mono (Nat.le_succ _)
            exact ⟨acted.content, acted.settings, acted.state⟩
        | interjection screen status => exact .still rfl rfl rfl

theorem restart_spends (interpreter : Interpreter) (id : Option String) :
    Spends interpreter.settings.maxAutoSteps interpreter (interpreter.restart id).after := by
  simp only [restart]
  split
  · rename_i cause after failed
    cases fetchUnit_error failed
    exact .still rfl rfl rfl
  · rename_i story after fetched
    obtain ⟨units, -, rfl⟩ := fetchUnit_ok fetched
    exact .running rfl rfl rfl

theorem goto_spends (interpreter : Interpreter) (target : String) :
    Spends interpreter.settings.maxAutoSteps interpreter (interpreter.goto target).after := by
  simp only [goto]
  split
  · exact .still rfl rfl rfl
  · have redirected := redirect_spends
      { interpreter with continuations := [], restoring := false } target
    exact ⟨redirected.content, redirected.settings, redirected.state⟩

theorem fireTimer_spends (interpreter : Interpreter) (token : Nat) :
    Spends (interpreter.settings.maxAutoSteps + 1) interpreter
      (interpreter.fireTimer token).after := by
  simp only [fireTimer]
  split
  · exact .still rfl rfl rfl
  · split
    · exact .still rfl rfl rfl
    · split
      · exact .still rfl rfl rfl
      · have advanced := advance_spends { interpreter with timer := none }
        exact ⟨advanced.content, advanced.settings, advanced.state⟩

theorem submitInput_spends (interpreter : Interpreter) (answer : String) :
    Spends (interpreter.settings.maxAutoSteps + 1) interpreter
      (interpreter.submitInput answer).after := by
  unfold submitInput
  split
  · exact .still rfl rfl rfl
  · dsimp only
    cases interpreter.screen.input.bind InputPrompt.path with
    | none =>
        have forward : Spends interpreter.settings.maxAutoSteps interpreter
            { interpreter with screen := { interpreter.screen with input := none } }.stepForward.after :=
          .running rfl rfl rfl
        exact forward.mono (Nat.le_succ _)
    | some path =>
        rw [Nat.add_comm]
        have written : Spends 1 interpreter { interpreter with
            state := (interpreter.state.write path (.text answer)).1
            screen := { interpreter.screen with input := none } } :=
          ⟨rfl, rfl, StateTree.write_marks interpreter.state path (.text answer)⟩
        exact written.andThen (stepForward_spends _)

theorem select_spends (interpreter : Interpreter) (index : Nat) :
    Spends interpreter.settings.maxAutoSteps interpreter (interpreter.select index).after := by
  simp only [select]
  split
  · exact .still rfl rfl rfl
  · split
    · split
      · exact .still rfl rfl rfl
      · have acted := runActions_spends ‹ChoiceOption›.actionList interpreter.clearScreen
        exact ⟨acted.content, acted.settings, acted.state⟩
    · exact .still rfl rfl rfl

theorem resumeFrom_spends (interpreter : Interpreter) (snapshot : Snapshot) :
    Spends (interpreter.settings.maxAutoSteps + 1) interpreter
      (interpreter.resumeFrom snapshot).after := by
  simp only [resumeFrom]
  split
  · rename_i cause after failed
    cases fetchUnit_error failed
    exact .still rfl rfl rfl
  · rename_i story after fetched
    obtain ⟨units, -, rfl⟩ := fetchUnit_ok fetched
    rw [Nat.add_comm]
    refine Spends.andThen ?_ (run_spends _)
    exact ⟨rfl, rfl, StateTree.touch_marks interpreter.state⟩

/-! ## Loading characters -/

theorem loadEach_spends (inOrder : interpreter.content.InOrder) (ids : List String) :
    Spends ids.length interpreter (loadEach ids interpreter).2 := by
  induction ids generalizing interpreter with
  | nil => exact .still rfl rfl rfl
  | cons id ids ih =>
      simp only [loadEach]
      split
      · rename_i data delivered
        have put : Spends 1 interpreter { interpreter with
            state := interpreter.state.insertCharacter (.ofRecord id data) } :=
          ⟨rfl, rfl, StateTree.insertCharacter_marks _
            (Character.ofRecord_inOrder (inOrder delivered) id)⟩
        exact (put.trans (ih inOrder)).mono (Nat.le_of_eq (Nat.add_comm 1 ids.length))
      · exact (ih inOrder).mono (Nat.le_succ _)
      · exact .still rfl rfl rfl

theorem loadCharacters_spends (inOrder : interpreter.content.InOrder) (ids : List String) :
    Spends ids.length interpreter (interpreter.loadCharacters ids).2 := by
  have each := loadEach_spends inOrder ids
  simp only [loadCharacters]
  split
  · rename_i cause after failed
    rw [failed] at each
    exact each
  · rename_i loaded after succeeded
    rw [succeeded] at each
    exact ⟨each.content, each.settings, each.state⟩

end Interpreter

namespace Operation

/-- How often an operation marks the state at most. -/
def marks (interpreter : Interpreter) : Operation → Nat
  | loadCharacters ids => ids.length
  | _ => interpreter.settings.maxAutoSteps + 1

/-- Whether an operation that edits the state marks what it changes. -/
def IsMarked : Operation → Prop
  | edit change => ∀ state, StateTree.Marks 1 state (change state)
  | _ => True

/-- No operation marks the state more often than that. -/
theorem perform_spends {interpreter : Interpreter} (inOrder : interpreter.content.InOrder)
    (operation : Operation) (marked : operation.IsMarked) :
    interpreter.Spends (operation.marks interpreter) (operation.perform interpreter) := by
  cases operation with
  | loadUnit id =>
      obtain ⟨units, same⟩ := Interpreter.fetchUnit_units interpreter id
      change Interpreter.Spends _ interpreter (interpreter.fetchUnit id).2
      rw [same]
      exact .still rfl rfl rfl
  | loadCharacters ids => exact Interpreter.loadCharacters_spends inOrder ids
  | start id => exact (Interpreter.restart_spends interpreter (some id)).mono (Nat.le_succ _)
  | advance => exact Interpreter.advance_spends interpreter
  | goto target => exact (Interpreter.goto_spends interpreter target).mono (Nat.le_succ _)
  | retry =>
      change Interpreter.Spends _ interpreter interpreter.retry.after
      simp only [Interpreter.retry]
      split
      · exact (Interpreter.run_spends interpreter).mono (Nat.le_succ _)
      · exact .still rfl rfl rfl
  | endStory =>
      have completed := Interpreter.complete_spends
        { interpreter.clearDisplay with continuations := [] }
      exact ⟨completed.content, completed.settings, completed.state.mono (Nat.zero_le _)⟩
  | restart id => exact (Interpreter.restart_spends interpreter id).mono (Nat.le_succ _)
  | reset =>
      exact ⟨rfl, rfl, (StateTree.setGlobal_marks interpreter.state Value.emptyMap_ordered).mono
        (Nat.le_add_left 1 _)⟩
  | fireTimer token => exact Interpreter.fireTimer_spends interpreter token
  | tick now =>
      change Interpreter.Spends _ interpreter (interpreter.tick now).after
      simp only [Interpreter.tick]
      split
      · exact .still rfl rfl rfl
      · split
        · exact Interpreter.fireTimer_spends interpreter _
        · exact .still rfl rfl rfl
  | acknowledgeEffect =>
      change Interpreter.Spends _ interpreter interpreter.acknowledgeEffect.after
      simp only [Interpreter.acknowledgeEffect]
      split
      · have advanced := Interpreter.advance_spends { interpreter with effectPending := false }
        exact ⟨advanced.content, advanced.settings, advanced.state⟩
      · exact .still rfl rfl rfl
  | submitInput answer => exact Interpreter.submitInput_spends interpreter answer
  | select index => exact (Interpreter.select_spends interpreter index).mono (Nat.le_succ _)
  | resumeFrom snapshot => exact Interpreter.resumeFrom_spends interpreter snapshot
  | edit change => exact ⟨rfl, rfl, (marked interpreter.state).mono (Nat.le_add_left 1 _)⟩
  | inject character text => exact .still rfl rfl rfl
  | pauseAudio | resumeAudio | drainEvents | pass now => exact .still rfl rfl rfl

end Operation

namespace SaveCodec

/-- How often a restore of a record marks the state at most. -/
def restoreMarks (codec : SaveCodec) (game : SaveRecord) (interpreter : Interpreter) : Nat :=
  (codec.roster game interpreter.state).length +
    (game.deltas.length + game.visible.length + 1 + (interpreter.settings.maxAutoSteps + 1))

/-- Laying a record over the characters and going on from its position. -/
theorem laid_spends {game : SaveRecord} (ordered : game.InOrder) (interpreter : Interpreter) :
    interpreter.Spends
      (game.deltas.length + game.visible.length + 1 + (interpreter.settings.maxAutoSteps + 1))
      ((laid game interpreter).resumeFrom (position game)).after := by
  have laying : interpreter.Spends (game.deltas.length + game.visible.length + 1)
      (laid game interpreter) :=
    ⟨rfl, rfl, StateTree.overlaid_marks ordered interpreter.state⟩
  exact laying.trans (Interpreter.resumeFrom_spends (laid game interpreter) (position game))

/-- No restore marks the state more often than that, even if it fails. -/
theorem restore_spends {interpreter : Interpreter} (inOrder : interpreter.content.InOrder)
    (codec : SaveCodec) {game : SaveRecord} (ordered : game.InOrder) :
    interpreter.Spends (codec.restoreMarks game interpreter)
      (codec.restore game interpreter).interpreter := by
  have loaded := Interpreter.loadCharacters_spends inOrder (codec.roster game interpreter.state)
  cases passed : ensureFinite game with
  | error error =>
      simp only [restore]
      rw [passed]
      exact .still rfl rfl rfl
  | ok accepted =>
      obtain ⟨rfl, finite⟩ := ensureFinite_eq passed
      generalize ends : interpreter.loadCharacters (codec.roster accepted interpreter.state) =
        outcome at loaded
      obtain ⟨result, ready⟩ := outcome
      cases result with
      | error cause =>
          simp only [restore]
          rw [passed]
          dsimp only
          rw [ends]
          exact loaded.mono (Nat.le_add_right _ _)
      | ok ids =>
          rw [restore_eq finite ends]
          have rest := laid_spends ordered ready
          rw [loaded.settings] at rest
          exact loaded.trans rest

end SaveCodec

end VisualNovel
