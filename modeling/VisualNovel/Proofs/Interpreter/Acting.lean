import VisualNovel.Proofs.Interpreter.Interludes

/-!
# The actions of an option

A pick runs the actions of an option up to a line, and each advance runs them up to the next one.
In between lines may lie over the story. However the run is cut into advances, the actions are
performed one after another: behind any of them the story differs from the one that was asked in
what they showed and hid and in what was said, and what is left to do is the rest of the list.
-/

namespace VisualNovel

namespace ChoiceAction

/-- Whether the action shows a line and waits. -/
def isLine : ChoiceAction → Bool
  | dialogue _ _ => true
  | _ => false

/-- The characters on screen behind an action. A character that is not in play is not shown, and
one that is on screen not twice. -/
def onScreen (state : StateTree) (visible : List String) : ChoiceAction → List String
  | .show character =>
    if (state.character? character).isSome && !visible.contains character then
      visible ++ [character]
    else visible
  | .hide character => visible.filter fun other => other ≠ character
  | _ => visible

/-- The entry of the log for the line of an action. -/
def record? (start : Interpreter) : ChoiceAction → Option HistoryEntry
  | dialogue character text => some (start.spoken character text)
  | _ => none

end ChoiceAction

namespace Interpreter

open Operation

variable {interpreter before : Interpreter} {done remaining : List ChoiceAction}
variable {interludes : List Interlude} {turns : List (List Interlude)}

/-- What comes of an outcome when the player advances once behind each of some turns. -/
def takeTurns (outcome : Outcome) (turns : List (List Interlude)) : Outcome :=
  turns.foldl (fun outcome interludes =>
    (performAll outcome.after (interludes.map Interlude.operation)).advance) outcome

/-- The entries that the lines of some actions leave in the log, each with those of the lines that
lay over it. -/
def optionLog (start : Interpreter) (done : List ChoiceAction) (turns : List (List Interlude)) :
    List HistoryEntry :=
  (List.zipWith List.cons (done.filterMap (ChoiceAction.record? start))
    (turns.map (List.filterMap (Interlude.record? start)))).flatten

/-- The interpreter behind some actions of an option and the turns of their lines. -/
def behind (interpreter : Interpreter) (done : List ChoiceAction)
    (turns : List (List Interlude)) : Interpreter :=
  { interpreter with
    screen := .blank
    status := if turns.isEmpty then interpreter.status else .dialogue
    visible := done.foldl (ChoiceAction.onScreen interpreter.state) interpreter.visible
    history := (interpreter.optionLog done turns).foldl History.push interpreter.history }

/-- The outcome of a line: it is on screen and in the log, and what is behind it is left to do. -/
def pausedAt (interpreter : Interpreter) (character : Option String) (text : String)
    (remaining : List ChoiceAction) : Outcome :=
  ⟨.ok .dialogue, { interpreter with
    screen := (interpreter.showLine character text).screen
    status := .dialogue
    history := interpreter.history.push (interpreter.spoken character text)
    continuations := .choiceActions remaining :: interpreter.continuations }⟩

/-! ## One action -/

theorem showCharacter_eq (interpreter : Interpreter) (id : String) :
    interpreter.showCharacter id = { interpreter with
      visible := ChoiceAction.onScreen interpreter.state interpreter.visible (.show id) } := by
  simp only [showCharacter, ChoiceAction.onScreen]
  split <;> rfl

theorem runActions_dialogue (interpreter : Interpreter) (character : Option String) (text : String)
    (remaining : List ChoiceAction) :
    runActions (.dialogue character text :: remaining) interpreter =
      interpreter.pausedAt character text remaining := by
  cases character <;> rfl

theorem advance_paused (interpreter : Interpreter) (character : Option String) (text : String)
    (remaining : List ChoiceAction) (history : History) :
    { (interpreter.pausedAt character text remaining).after with history }.advance =
      runActions remaining { interpreter with screen := .blank, status := .dialogue, history } :=
  rfl

/-- An advance behind a line of an option runs the actions behind it, whatever lay over the line in
between. -/
theorem advance_pausedAt (character : Option String) (text : String)
    (balanced : Interlude.depth? false 0 interludes = some 0) :
    (performAll (interpreter.pausedAt character text remaining).after
        (interludes.map Interlude.operation)).advance =
      runActions remaining { interpreter with
        screen := .blank
        status := .dialogue
        history := (interpreter.spoken character text ::
          interludes.filterMap (Interlude.record? interpreter)).foldl History.push
            interpreter.history } := by
  have above : Over (interpreter.pausedAt character text remaining).after 0
      (interpreter.pausedAt character text remaining).after := .bare _
  obtain ⟨back, log⟩ := above.performAll balanced
  rw [back.eq, log, advance_paused]
  rfl

/-! ## All actions -/

theorem behind_show (character : String) (done : List ChoiceAction)
    (turns : List (List Interlude)) :
    { interpreter with
      visible := ChoiceAction.onScreen interpreter.state interpreter.visible
        (.show character) }.behind done turns =
      interpreter.behind (.show character :: done) turns :=
  rfl

theorem behind_hide (character : String) (done : List ChoiceAction)
    (turns : List (List Interlude)) :
    (interpreter.hideCharacter character).behind done turns =
      interpreter.behind (.hide character :: done) turns :=
  rfl

/-- A line and those that lay over it are the first that was said. -/
theorem behind_dialogue (character : Option String) (text : String) (done : List ChoiceAction)
    (interludes : List Interlude) (turns : List (List Interlude)) :
    { interpreter with
      screen := .blank
      status := .dialogue
      history := (interpreter.spoken character text ::
        interludes.filterMap (Interlude.record? interpreter)).foldl History.push
          interpreter.history }.behind done turns =
      interpreter.behind (.dialogue character text :: done) (interludes :: turns) := by
  have log : interpreter.optionLog (.dialogue character text :: done) (interludes :: turns) =
      (interpreter.spoken character text ::
        interludes.filterMap (Interlude.record? interpreter)) ++
        interpreter.optionLog done turns := rfl
  simp only [behind]
  rw [log, List.foldl_append, ite_self]
  rfl

theorem behind_nil (blank : interpreter.screen = .blank) :
    interpreter.behind [] [] = interpreter := by
  simp only [behind]
  rw [← blank]
  rfl

/-- When actions that do not jump are done, with a turn for each of their lines, the rest of the
list is run behind them. -/
theorem takeTurns_runActions (blank : interpreter.screen = .blank)
    (jumpless : ∀ action ∈ done, action.target? = none)
    (counted : turns.length = done.countP ChoiceAction.isLine)
    (balanced : ∀ interludes ∈ turns, Interlude.depth? false 0 interludes = some 0) :
    takeTurns (runActions (done ++ remaining) interpreter) turns =
      runActions remaining (interpreter.behind done turns) := by
  induction done generalizing interpreter turns with
  | nil =>
      rw [List.eq_nil_of_length_eq_zero counted, behind_nil blank]
      rfl
  | cons action done ih =>
      have later : ∀ action ∈ done, action.target? = none := fun action member =>
        jumpless action (List.mem_cons_of_mem _ member)
      rw [List.countP_cons] at counted
      -- Only a line takes a turn. The other actions are done in the same call as the one behind them.
      cases action with
      | «show» character =>
          rw [List.cons_append, runActions, showCharacter_eq, ← behind_show]
          exact ih blank later counted balanced
      | hide character =>
          rw [List.cons_append, runActions, ← behind_hide]
          exact ih blank later counted balanced
      | dialogue character text =>
          cases turns with
          | nil => cases counted
          | cons interludes turns =>
              rw [List.cons_append, runActions_dialogue, takeTurns, List.foldl_cons,
                advance_pausedAt character text (balanced _ (List.mem_cons_self ..)),
                ← behind_dialogue]
              exact ih rfl later (Nat.succ.inj counted)
                fun interludes member => balanced interludes (List.mem_cons_of_mem _ member)
      | goto target => cases jumpless _ (List.mem_cons_self ..)

/-- Behind actions that do not jump the story is redirected by the first jump, or else goes on behind
the choice. -/
theorem runActions_rest (actions : List ChoiceAction) (interpreter : Interpreter) :
    runActions (actions.dropWhile fun action => action.target?.isNone) interpreter =
      match actions.findSome? ChoiceAction.target? with
      | some target => interpreter.redirect target
      | none => interpreter.stepForward := by
  induction actions with
  | nil => rfl
  | cons action actions ih =>
      cases action with
      | goto target => rfl
      | _ => exact ih

/-- A pick and an advance for each line perform the actions of an option once each and in order, and
whatever lay over the lines is in the log alone. Each line waits, with the actions in front of it
done and those behind it left. When as many turns were taken as there are lines in front of the first
jump, the actions in front of it are done, and the story is redirected by it, or without a jump goes
on behind the choice. -/
theorem select_performs (before : Interpreter) (offer : Choice) (option : ChoiceOption)
    (index : Nat) (turns : List (List Interlude)) (asking : before.status = .choice)
    (current : before.currentKind? = some (.choice offer))
    (picked : offer.options[index]? = some option)
    (balanced : ∀ interludes ∈ turns, Interlude.depth? false 0 interludes = some 0) :
    (∀ done character text remaining,
      option.actionList = done ++ .dialogue character text :: remaining →
      (∀ action ∈ done, action.target? = none) →
      turns.length = done.countP ChoiceAction.isLine →
      takeTurns (before.select index) turns =
        (before.behind done turns).pausedAt character text remaining) ∧
    ∀ done, done = option.actionList.takeWhile (fun action => action.target?.isNone) →
      turns.length = done.countP ChoiceAction.isLine →
      takeTurns (before.select index) turns =
        match option.actionList.findSome? ChoiceAction.target? with
        | some target => (before.behind done turns).redirect target
        | none => (before.behind done turns).stepForward := by
  rw [select_picked asking current picked]
  have blank : before.clearScreen.screen = .blank := rfl
  constructor
  · intro done character text remaining split jumpless counted
    rw [split, takeTurns_runActions blank jumpless counted balanced, runActions_dialogue]
    rfl
  · rintro done rfl counted
    have jumpless : ∀ action ∈ option.actionList.takeWhile (fun action => action.target?.isNone),
        action.target? = none := fun action member =>
      Option.isNone_iff_eq_none.1 (List.all_eq_true.1 List.all_takeWhile action member)
    have split : option.actionList.takeWhile (fun action => action.target?.isNone) ++
        option.actionList.dropWhile (fun action => action.target?.isNone) = option.actionList :=
      List.takeWhile_append_dropWhile
    rw [← runActions_rest]
    calc takeTurns (runActions option.actionList before.clearScreen) turns
      _ = takeTurns (runActions (_ ++ _) before.clearScreen) turns := by rw [split]
      _ = _ := takeTurns_runActions blank jumpless counted balanced

/-- An option in front of whose jump somebody comes and goes. -/
def farewellOption : ChoiceOption :=
  ⟨"Leave", some [.show "mia", .dialogue (some "mia") "Wait!", .hide "mia",
    .dialogue none "The door shuts.", .goto "hall", .show "mia"]⟩

/-- A choice of one option. -/
def farewellOffer : Choice := ⟨none, none, [farewellOption]⟩

/-- Content that asks whether to leave. -/
def farewellContent : Content :=
  ((Library.empty.addUnit ⟨"start", [⟨none, .choice farewellOffer⟩, ⟨none, .finish⟩,
    ⟨some "hall", .dialogue ⟨none, "The hall.", none, []⟩⟩]⟩).addCharacter
      "mia" ⟨[("name", .text "Mia")], .null, []⟩).toContent

/-- The choice is on screen, and a character is in play. -/
def farewellStart : Interpreter :=
  performAll (.new farewellContent .standard) [.loadCharacters ["mia"], .start "start"]

/-- A line lies over the first line of the option, and none over the second. -/
def farewellTurns : List (List Interlude) :=
  [[.inject none "A knock.", .dismiss], []]

/-- The actions in front of the jump. -/
def farewellActions : List ChoiceAction :=
  [.show "mia", .dialogue (some "mia") "Wait!", .hide "mia", .dialogue none "The door shuts."]

/-- The character is there for the first line and gone behind the second, and does not come back:
the jump leads into the hall, and all that was said is in the log. -/
theorem select_performs_farewell :
    (farewellStart.behind [.show "mia"] []).visible = ["mia"] ∧
      farewellStart.select 0 = (farewellStart.behind [.show "mia"] []).pausedAt (some "mia") "Wait!"
        [.hide "mia", .dialogue none "The door shuts.", .goto "hall", .show "mia"] ∧
      takeTurns (farewellStart.select 0) farewellTurns =
        (farewellStart.behind farewellActions farewellTurns).redirect "hall" ∧
      (farewellStart.behind farewellActions farewellTurns).step = 0 ∧
      (farewellStart.behind farewellActions farewellTurns).visible = [] ∧
      (farewellStart.behind farewellActions farewellTurns).history.entries.map HistoryEntry.text =
        ["Wait!", "A knock.", "The door shuts."] := by
  have first := (select_performs farewellStart farewellOffer farewellOption 0 [] rfl rfl rfl
    nofun).1 [.show "mia"] (some "mia") "Wait!" _ rfl (by decide) rfl
  have last := (select_performs farewellStart farewellOffer farewellOption 0 farewellTurns rfl rfl
    rfl (by decide)).2 farewellActions rfl rfl
  exact ⟨rfl, first, last, rfl, rfl, rfl⟩

end Interpreter

end VisualNovel
