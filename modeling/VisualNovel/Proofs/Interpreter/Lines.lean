import VisualNovel.Interpreter.Control
import VisualNovel.Proofs.Interpreter.Steps

/-!
# Lines on screen

Showing a line, its parts or an injected line puts nothing but a line on screen. The lemmas of this
module say what else the interpreter does with it, when a step is performed for the first time and
when it is passed again after a restore.
-/

namespace VisualNovel

namespace Screen

/-- Whether the screen shows a line and nothing else. -/
def IsLine (screen : Screen) : Prop :=
  screen.title = none ∧ screen.choices = [] ∧ screen.input = none

theorem IsLine.append {screen : Screen} (line : screen.IsLine) (speaking : Bool)
    (addition : String) : (screen.append speaking addition).IsLine := by
  simp only [Screen.append]
  split <;> exact line

end Screen

namespace Dialogue

/-- What is left to do of a line when some of its parts are shown. -/
def left (line : Dialogue) (shown : Nat) : List Continuation :=
  if shown < line.parts.length then [.dialogueParts shown] else []

/-- Whether an entry of the log is the line as the given step showed it. -/
def IsLogged (line : Dialogue) (step : Nat) (entry : HistoryEntry) : Prop :=
  entry.kind = (if line.character.isSome then .dialogue else .narration) ∧ entry.step = some step

end Dialogue

namespace Interpreter

variable {interpreter : Interpreter} {line : Dialogue}

theorem showLine_isLine (interpreter : Interpreter) (character : Option String) (text : String) :
    (interpreter.showLine character text).screen.IsLine := by
  cases character <;> exact ⟨rfl, rfl, rfl⟩

theorem say_isLine (interpreter : Interpreter) (character : Option String) (text : String) :
    (interpreter.say character text).screen.IsLine :=
  showLine_isLine interpreter character text

/-- Parts only add to the line on screen. -/
theorem appendParts_eq (interpreter : Interpreter) (speaking : Bool) (parts : List DialoguePart)
    (shows : interpreter.screen.IsLine) :
    ∃ screen, screen.IsLine ∧
      parts.foldl (fun shown part => shown.appendPart speaking part) interpreter =
        { interpreter with screen } := by
  induction parts generalizing interpreter with
  | nil => exact ⟨interpreter.screen, shows, rfl⟩
  | cons part parts ih =>
      obtain ⟨screen, shows, same⟩ :=
        ih (interpreter.appendPart speaking part) (shows.append speaking _)
      exact ⟨screen, shows, same⟩

/-- An entry that is added to the log for a line. -/
theorem logLine_eq (interpreter : Interpreter) (line : Dialogue) (text : String) :
    ∃ entry, line.IsLogged interpreter.step entry ∧
      interpreter.logLine line.character.isSome text =
        { interpreter with history := interpreter.history.push entry } := by
  simp only [logLine]
  cases speaking : line.character.isSome
  · exact ⟨_, ⟨by simp [speaking]; rfl, rfl⟩, rfl⟩
  · exact ⟨_, ⟨by simp [speaking]; rfl, rfl⟩, rfl⟩

/-- A line that is performed again after a restore shows the parts that were shown before. -/
theorem showDialogue_restoring (restoring : interpreter.restoring = true) (line : Dialogue) :
    ∃ screen, screen.IsLine ∧
      (interpreter.showDialogue line).2 = { interpreter with
        restoring := false, restoreParts := 0, screen
        continuations := line.left (min interpreter.restoreParts line.parts.length) ++
          interpreter.continuations } := by
  simp only [showDialogue, restoring, ↓reduceIte]
  split
  · rename_i single
    have none_left : line.parts.length = 0 := by simpa using single
    refine ⟨_, showLine_isLine interpreter line.character line.text, ?_⟩
    simp only [Dialogue.left]
    rw [none_left, if_neg (Nat.not_lt_zero _)]
    rfl
  · obtain ⟨screen, shows, same⟩ := appendParts_eq
      ({ interpreter with restoring := false, restoreParts := 0 }.showLine line.character line.text)
      line.character.isSome
      (line.parts.take (min interpreter.restoreParts line.parts.length))
      (showLine_isLine _ line.character line.text)
    refine ⟨screen, shows, ?_⟩
    rw [same]
    simp only [Dialogue.left]
    split <;> rfl

theorem assignOptional_settled (interpreter : Interpreter) (expression : Option String) :
    { interpreter with restoring := false, restoreParts := 0 }.assignOptional expression =
      { interpreter.assignOptional expression with restoring := false, restoreParts := 0 } := by
  cases expression <;> rfl

/-- A line that is performed for the first time applies its assignment, and joins the log when it
has no parts. -/
theorem showDialogue_fresh (fresh : interpreter.restoring = false) (line : Dialogue) :
    ∃ screen entry, screen.IsLine ∧ line.IsLogged interpreter.step entry ∧
      (interpreter.showDialogue line).2 = { interpreter.assignOptional line.assignment with
        restoring := false, restoreParts := 0, screen
        history := if line.parts.length = 0 then interpreter.history.push entry
          else interpreter.history
        continuations := line.left 0 ++ interpreter.continuations } := by
  have backstage := assignOptional_backstage interpreter line.assignment
  simp only [showDialogue, fresh, Bool.false_eq_true, ↓reduceIte, assignOptional_settled]
  generalize interpreter.assignOptional line.assignment = prepared at backstage
  have shows := showLine_isLine prepared line.character line.text
  obtain ⟨entry, logged, same⟩ := logLine_eq
    ({ prepared with restoring := false, restoreParts := 0 }.showLine line.character line.text)
    line (prepared.state.substitute line.text)
  refine ⟨_, entry, shows, ?_, ?_⟩
  · rw [← backstage.step]
    exact logged
  · rw [← backstage.history, ← backstage.continuations]
    simp only [Dialogue.left]
    split
    · rename_i single
      have none_left : line.parts.length = 0 := by simpa using single
      rw [if_pos none_left, none_left, if_neg (Nat.lt_irrefl _)]
      exact same
    · rename_i several
      have some_left : 0 < line.parts.length := by
        rw [List.isEmpty_iff_length_eq_zero] at several
        omega
      have nonempty : line.parts.length ≠ 0 := Nat.ne_of_gt some_left
      simp only [some_left, nonempty, ↓reduceIte, List.take_zero, List.foldl_nil]
      rfl

/-- A part applies its assignment, and the last part puts the line into the log. -/
theorem showPart_eq {next : Nat} (current : interpreter.currentKind? = some (.dialogue line))
    (below : next < line.parts.length) :
    ∃ part screen entry, line.parts[next]? = some part ∧
      (interpreter.screen.IsLine → screen.IsLine) ∧ line.IsLogged interpreter.step entry ∧
      interpreter.showPart next = wait
        { interpreter.assignOptional part.assignment with
          screen
          history := if next + 1 < line.parts.length then interpreter.history
            else interpreter.history.push entry
          continuations := line.left (next + 1) ++ interpreter.continuations } .dialogue := by
  change interpreter.currentStep?.map Step.kind = _ at current
  have found : line.parts[next]? = some line.parts[next] := List.getElem?_eq_getElem below
  simp only [showPart, current, found]
  generalize line.parts[next] = part at found
  have backstage := assignOptional_backstage interpreter part.assignment
  let appended := (interpreter.assignOptional part.assignment).appendPart line.character.isSome part
  obtain ⟨entry, logged, same⟩ := logLine_eq appended line appended.screen.line
  refine ⟨part, appended.screen, entry, rfl, ?_, ?_, ?_⟩
  · intro lined
    rw [← backstage.screen] at lined
    exact lined.append _ _
  · rw [← backstage.step]
    exact logged
  · rw [← backstage.history, ← backstage.continuations]
    simp only [Dialogue.left]
    split
    · rfl
    · rw [same]
      rfl

end Interpreter

end VisualNovel
