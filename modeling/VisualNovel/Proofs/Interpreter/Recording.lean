import VisualNovel.Proofs.History
import VisualNovel.Proofs.Interpreter.Faces

/-!
# What a run adds to the log

No step reads the log. A run therefore does the same over every log, and adds the same lines to each
of them.
-/

namespace VisualNovel

namespace History

variable {history other : History} {lines : List HistoryEntry}

/-- Whether a log holds the newest of some lines. -/
structure Holds (history : History) (lines : List HistoryEntry) : Prop where
  bounded : history.Bounded
  entries : history.entries = newest history.limit lines

theorem Holds.push (holds : history.Holds lines) (line : HistoryEntry) :
    (history.push line).Holds (lines ++ [line]) where
  bounded := holds.bounded.push line
  entries := by
    rw [holds.bounded.push_entries, holds.entries, newest_append, limit_push]

theorem Bounded.holds_replace (bounded : history.Bounded) (lines : List HistoryEntry) :
    (history.replace lines).Holds lines where
  bounded := bounded.replace lines
  entries := by
    rw [bounded.replace_entries, bounded.replace_limit]

/-- Logs of one limit that hold the same lines are the same. -/
theorem Holds.unique (holds : history.Holds lines) (again : other.Holds lines)
    (limit : other.limit = history.limit) : other = history := by
  have entries := again.entries
  rw [limit, ← holds.entries] at entries
  obtain ⟨_, _⟩ := other
  obtain ⟨_, _⟩ := history
  cases limit
  cases entries
  rfl

/-- Only the newest of the lines that follow others count. -/
theorem newest_append_newest (limit : Nat) (old new : List HistoryEntry) :
    newest limit (old ++ newest limit new) = newest limit (old ++ new) := by
  by_cases few : new.length ≤ limit
  · rw [newest_of_le few]
  · have left : (new.drop (new.length - limit)).length = limit := by
      rw [List.length_drop]
      omega
    have behind : old.length + new.length - limit = old.length + (new.length - limit) := by
      omega
    simp only [newest]
    rw [List.length_append, List.length_append, left, Nat.add_sub_cancel, behind,
      List.drop_left, List.drop_append, List.drop_eq_nil_of_le (Nat.le_add_right ..),
      List.nil_append, Nat.add_sub_cancel_left]

end History

namespace Interpreter

variable {interpreter : Interpreter} {step : Step} {history : History}

/-- The interpreter with another log. -/
def withLog (interpreter : Interpreter) (history : History) : Interpreter :=
  { interpreter with history }

/-- A result over another log. -/
def overLog {α : Type} (history : History) (result : α × Interpreter) : α × Interpreter :=
  (result.1, result.2.withLog history)

/-! ## Steps -/

theorem fetchUnit_withLog (interpreter : Interpreter) (history : History) (id : String) :
    (interpreter.withLog history).fetchUnit id = overLog history (interpreter.fetchUnit id) := by
  simp only [fetchUnit, withLog]
  cases Dict.get? interpreter.units id with
  | some story => rfl
  | none =>
      dsimp only
      cases interpreter.content.storyUnit id <;> rfl

theorem jump_withLog (interpreter : Interpreter) (history : History) (target : String) :
    (interpreter.withLog history).jump target = overLog history (interpreter.jump target) := by
  have cleared : (interpreter.withLog history).clearDisplay =
      interpreter.clearDisplay.withLog history := rfl
  have current : (interpreter.clearDisplay.withLog history).story =
      interpreter.clearDisplay.story := rfl
  simp only [jump]
  rw [cleared, current]
  generalize interpreter.clearDisplay = clear
  cases clear.story with
  | none => rfl
  | some story =>
      cases label : story.labelIndex? target with
      | some position =>
          simp only [label]
          rfl
      | none =>
          simp only [label]
          rw [fetchUnit_withLog]
          generalize clear.fetchUnit target = outcome
          obtain ⟨result, after⟩ := outcome
          cases result <;> rfl

theorem returnToCaller_withLog (interpreter : Interpreter) (history : History) :
    (interpreter.withLog history).returnToCaller = overLog history interpreter.returnToCaller := by
  have stack : (interpreter.withLog history).callStack = interpreter.callStack := rfl
  simp only [returnToCaller]
  rw [stack]
  cases interpreter.callStack with
  | nil => rfl
  | cons frame callStack =>
      dsimp only
      rw [fetchUnit_withLog]
      generalize interpreter.fetchUnit frame.unitId = outcome
      obtain ⟨result, after⟩ := outcome
      cases result <;> rfl

theorem changeScene_withLog (interpreter : Interpreter) (history : History) (id : String) :
    (interpreter.withLog history).changeScene id =
      overLog history (interpreter.changeScene id) := by
  have source : (interpreter.withLog history).content = interpreter.content := rfl
  simp only [changeScene]
  rw [source]
  cases interpreter.content.scene id <;> rfl

theorem unlessRestoring_withLog {change : Interpreter → Interpreter}
    (changes : change (interpreter.withLog history) = (change interpreter).withLog history) :
    (interpreter.withLog history).unlessRestoring change =
      overLog history (interpreter.unlessRestoring change) := by
  have restores : (interpreter.withLog history).restoring = interpreter.restoring := rfl
  simp only [unlessRestoring]
  rw [changes, restores]
  cases interpreter.restoring <;> rfl

theorem showCharacter_withLog (interpreter : Interpreter) (history : History) (id : String) :
    (interpreter.withLog history).showCharacter id =
      (interpreter.showCharacter id).withLog history := by
  have state : (interpreter.withLog history).state = interpreter.state := rfl
  have visible : (interpreter.withLog history).visible = interpreter.visible := rfl
  simp only [showCharacter]
  rw [state, visible]
  split <;> rfl

theorem assignOptional_withLog (interpreter : Interpreter) (history : History)
    (expression : Option String) :
    (interpreter.withLog history).assignOptional expression =
      (interpreter.assignOptional expression).withLog history := by
  cases expression <;> rfl

theorem appendParts_withLog (interpreter : Interpreter) (history : History) (speaking : Bool)
    (parts : List DialoguePart) :
    parts.foldl (fun shown part => shown.appendPart speaking part) (interpreter.withLog history) =
      (parts.foldl (fun shown part => shown.appendPart speaking part) interpreter).withLog
        history := by
  induction parts generalizing interpreter with
  | nil => rfl
  | cons part parts ih => exact ih (interpreter.appendPart speaking part)

/-- A line joins any log when it is said. -/
theorem say_withLog (interpreter : Interpreter) (character : Option String) (text : String) :
    ∃ entry, ∀ history, (interpreter.withLog history).say character text =
      (interpreter.say character text).withLog (history.push entry) := by
  cases character with
  | none =>
      exact ⟨(HistoryEntry.narration (interpreter.state.substitute text)).atStep interpreter.step,
        fun _ => rfl⟩
  | some id =>
      exact ⟨(HistoryEntry.dialogue (interpreter.displayName id)
        (interpreter.state.substitute text)).atStep interpreter.step, fun _ => rfl⟩

/-- A line on screen, with what is left of it. -/
theorem leave_withLog (interpreter : Interpreter) (history : History) (shown : Nat)
    (line : Dialogue) :
    (if shown < line.parts.length then
        { interpreter.withLog history with
          continuations := .dialogueParts shown :: (interpreter.withLog history).continuations }
      else interpreter.withLog history) =
    (if shown < line.parts.length then
        { interpreter with continuations := .dialogueParts shown :: interpreter.continuations }
      else interpreter).withLog history := by
  split <;> rfl

theorem showDialogue_withLog (interpreter : Interpreter) (line : Dialogue) :
    ∃ lines : List HistoryEntry, ∀ history, (interpreter.withLog history).showDialogue line =
      overLog (lines.foldl History.push history) (interpreter.showDialogue line) := by
  have restores : ∀ history, (interpreter.withLog history).restoring = interpreter.restoring :=
    fun _ => rfl
  have parts : ∀ history, (interpreter.withLog history).restoreParts = interpreter.restoreParts :=
    fun _ => rfl
  have settled : ∀ history,
      { interpreter.withLog history with restoring := false, restoreParts := 0 } =
        { interpreter with restoring := false, restoreParts := 0 }.withLog history :=
    fun _ => rfl
  have shows : ∀ (stage : Interpreter) (history : History),
      (stage.withLog history).showLine line.character line.text =
        (stage.showLine line.character line.text).withLog history :=
    fun _ _ => rfl
  simp only [showDialogue, settled, restores, parts]
  generalize { interpreter with restoring := false, restoreParts := 0 } = fresh
  cases interpreter.restoring with
  | true =>
      refine ⟨[], ?_⟩
      intro history
      simp only [↓reduceIte, shows, appendParts_withLog, leave_withLog]
      split <;> rfl
  | false =>
      simp only [Bool.false_eq_true, ↓reduceIte, assignOptional_withLog]
      obtain ⟨entry, joins⟩ :=
        say_withLog (fresh.assignOptional line.assignment) line.character line.text
      simp only [joins, shows, appendParts_withLog, leave_withLog]
      split
      · exact ⟨[entry], fun _ => rfl⟩
      · exact ⟨[], fun _ => rfl⟩

/-- A title card joins any log when it is shown. -/
theorem showTitles_withLog (interpreter : Interpreter) (card : Titles) :
    ∃ lines : List HistoryEntry, ∀ history, (interpreter.withLog history).showTitles card =
      overLog (lines.foldl History.push history) (interpreter.showTitles card) := by
  let prepared := (interpreter.assignOptional card.assignment).clearDisplay
  refine ⟨[(HistoryEntry.titles (prepared.state.substitute card.text)).atStep prepared.step], ?_⟩
  intro history
  rw [showTitles_eq, showTitles_eq, assignOptional_withLog]
  simp only [titled]
  cases card.durationMs? <;> rfl

/-- A step does the same over every log, and adds the same lines to it. -/
theorem dispatch_withLog (interpreter : Interpreter) (step : Step) :
    ∃ lines : List HistoryEntry, ∀ history, (interpreter.withLog history).dispatch step =
      overLog (lines.foldl History.push history) (interpreter.dispatch step) := by
  have restores : ∀ history, (interpreter.withLog history).restoring = interpreter.restoring :=
    fun _ => rfl
  cases kind : step.kind with
  | assign expression =>
      simp only [dispatch, kind]
      exact ⟨[], fun _ => rfl⟩
  | scene name =>
      simp only [dispatch, kind, restores]
      cases name.or step.label with
      | none => exact ⟨[], fun _ => rfl⟩
      | some id =>
          cases interpreter.restoring with
          | true => exact ⟨[], fun _ => rfl⟩
          | false => exact ⟨[], fun history => changeScene_withLog interpreter history id⟩
  | «show» character =>
      simp only [dispatch, kind]
      exact ⟨[], fun history =>
        unlessRestoring_withLog (showCharacter_withLog interpreter history character)⟩
  | hide | play | stopStream | stopAllStreams =>
      simp only [dispatch, kind]
      exact ⟨[], fun history => unlessRestoring_withLog rfl⟩
  | dialogue line =>
      simp only [dispatch, kind]
      exact showDialogue_withLog interpreter line
  | titles card =>
      simp only [dispatch, kind, restores]
      cases interpreter.restoring with
      | true => exact ⟨[], fun _ => rfl⟩
      | false => exact showTitles_withLog interpreter card
  | input path text =>
      simp only [dispatch, kind]
      exact ⟨[], fun _ => rfl⟩
  | choice offer =>
      simp only [dispatch, kind]
      exact ⟨[], fun _ => rfl⟩
  | goto target =>
      simp only [dispatch, kind]
      exact ⟨[], fun history => jump_withLog interpreter history target⟩
  | back =>
      simp only [dispatch, kind]
      exact ⟨[], fun history => returnToCaller_withLog interpreter history⟩
  | finish =>
      simp only [dispatch, kind]
      exact ⟨[], fun history =>
        returnToCaller_withLog { interpreter with restoring := false } history⟩

end Interpreter

/-! ## Runs -/

/-- The outcome with another log. -/
def Outcome.withLog (outcome : Outcome) (history : History) : Outcome :=
  ⟨outcome.result, outcome.after.withLog history⟩

/-- The round with another log behind it. -/
def Turn.withLog (history : History) : Turn → Turn
  | .performed after => .performed (after.withLog history)
  | .returned after => .returned (after.withLog history)
  | .stopped outcome => .stopped (outcome.withLog history)
  | .ended outcome => .ended (outcome.withLog history)

namespace Interpreter

theorem complete_withLog (interpreter : Interpreter) (history : History) :
    (interpreter.withLog history).complete = interpreter.complete.withLog history := by
  have status : (interpreter.withLog history).status = interpreter.status := rfl
  simp only [complete]
  rw [status]
  split <;> rfl

theorem afterStep_withLog (history : History) (dispatched : Dispatched) :
    afterStep (overLog history dispatched) = (afterStep dispatched).withLog history := by
  obtain ⟨result, after⟩ := dispatched
  cases result with
  | error cause => rfl
  | ok flow =>
      cases flow with
      | complete => exact congrArg Turn.stopped (complete_withLog after history)
      | _ => rfl

/-- A round does the same over every log, and adds the same lines to it. -/
theorem turn_withLog (interpreter : Interpreter) (dispatched : Nat) :
    ∃ lines : List HistoryEntry, ∀ history, (interpreter.withLog history).turn dispatched =
      (interpreter.turn dispatched).withLog (lines.foldl History.push history) := by
  have current : ∀ history, (interpreter.withLog history).story = interpreter.story :=
    fun _ => rfl
  have position : ∀ history, (interpreter.withLog history).step = interpreter.step :=
    fun _ => rfl
  have limits : ∀ history, (interpreter.withLog history).settings = interpreter.settings :=
    fun _ => rfl
  simp only [turn, current, position, limits, returnToCaller_withLog]
  cases interpreter.story with
  | none => exact ⟨[], fun history => congrArg Turn.ended (complete_withLog interpreter history)⟩
  | some story =>
      cases found : story.step? interpreter.step with
      | none =>
          simp only [found]
          generalize interpreter.returnToCaller = outcome
          obtain ⟨result, after⟩ := outcome
          refine ⟨[], ?_⟩
          intro history
          cases result with
          | error cause => rfl
          | ok flow =>
              cases flow with
              | complete => exact congrArg Turn.ended (complete_withLog after history)
              | _ => rfl
      | some step =>
          simp only [found]
          split
          · exact ⟨[], fun _ => rfl⟩
          · obtain ⟨lines, dispatches⟩ := dispatch_withLog interpreter step
            refine ⟨lines, ?_⟩
            intro history
            rw [dispatches, afterStep_withLog]

theorem loop_withLog (fuel dispatched : Nat) (interpreter : Interpreter) :
    ∃ lines : List HistoryEntry, ∀ history, loop fuel dispatched (interpreter.withLog history) =
      (loop fuel dispatched interpreter).withLog (lines.foldl History.push history) := by
  induction fuel generalizing dispatched interpreter with
  | zero => exact ⟨[], fun _ => rfl⟩
  | succ fuel ih =>
      obtain ⟨lines, turns⟩ := turn_withLog interpreter dispatched
      simp only [loop, turns]
      cases interpreter.turn dispatched with
      | performed after =>
          obtain ⟨more, loops⟩ := ih (dispatched + 1) after
          refine ⟨lines ++ more, ?_⟩
          intro history
          rw [List.foldl_append]
          exact loops _
      | returned after =>
          obtain ⟨more, loops⟩ := ih dispatched after
          refine ⟨lines ++ more, ?_⟩
          intro history
          rw [List.foldl_append]
          exact loops _
      | stopped outcome => exact ⟨lines, fun _ => rfl⟩
      | ended outcome => exact ⟨lines, fun _ => rfl⟩

/-- A run does the same over every log, and adds the same lines to it. -/
theorem run_withLog (interpreter : Interpreter) :
    ∃ lines : List HistoryEntry, ∀ history, (interpreter.withLog history).run =
      interpreter.run.withLog (lines.foldl History.push history) :=
  loop_withLog interpreter.rounds 0 interpreter

end Interpreter

end VisualNovel
