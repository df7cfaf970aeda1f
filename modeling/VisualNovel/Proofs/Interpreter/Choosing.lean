import VisualNovel.Proofs.Interpreter.Cards
import VisualNovel.Proofs.Interpreter.Snapshots
import VisualNovel.Proofs.State.Contents

/-!
# Options across a load

The actions of an option that wait behind a line are kept on the stack of continuations, which a
snapshot does not hold. A resumed story therefore stands at the same step and asks again: advances
wait, and the option that was picked runs all its actions from the first.
-/

namespace VisualNovel.Interpreter

open Operation

variable {content : Content} {settings limits : StorySettings}
variable {interpreter other : Interpreter} {snapshot : Snapshot} {offer : Choice}

/-- A choice on screen with nothing left to do. -/
structure Asks (interpreter : Interpreter) (offer : Choice) : Prop where
  current : interpreter.currentKind? = some (.choice offer)
  status : interpreter.status = .choice
  continuations : interpreter.continuations = []
  choices : interpreter.screen.choices =
    offer.options.map fun option => interpreter.state.substitute option.text

/-- A choice waits for an option. -/
theorem Asks.advance (asks : interpreter.Asks offer) :
    interpreter.advance = ⟨.ok .choice, interpreter⟩ := by
  simp only [Interpreter.advance]
  rw [asks.continuations, asks.status]
  simp only [stay, succeed]
  rw [asks.status]

/-- An option runs its actions from the first. -/
theorem select_picked {option : ChoiceOption} {index : Nat} (asking : interpreter.status = .choice)
    (current : interpreter.currentKind? = some (.choice offer))
    (picked : offer.options[index]? = some option) :
    interpreter.select index = runActions option.actionList interpreter.clearScreen := by
  have current : interpreter.currentStep?.map Step.kind = _ := current
  simp only [Interpreter.select]
  rw [if_neg (not_not_intro asking), current]
  dsimp only
  rw [picked]

theorem Asks.select {option : ChoiceOption} {index : Nat} (asks : interpreter.Asks offer)
    (picked : offer.options[index]? = some option) :
    interpreter.select index = runActions option.actionList interpreter.clearScreen :=
  select_picked asks.status asks.current picked

/-- A story that is resumed at the step of a choice asks again. -/
theorem Sound.resumeFrom_asks (sound : interpreter.Sound content settings)
    (target : other.Sound content limits) (room : 0 < limits.maxAutoSteps)
    (current : interpreter.currentKind? = some (.choice offer))
    (taken : interpreter.snapshot = .ok snapshot) :
    (other.resumeFrom snapshot).result = .ok .choice ∧
      (other.resumeFrom snapshot).after.state = other.state.touch ∧
      (other.resumeFrom snapshot).after.Asks offer := by
  obtain ⟨step, placed, kind, replaced, resumes⟩ :=
    sound.resumeFrom_replaced target room current taken
  have waiting : placed.dispatch step = (.ok (.suspend .choice), (placed.showChoice offer).2) := by
    simp only [dispatch]
    rw [kind]
    rfl
  rw [resumes waiting]
  refine ⟨rfl, replaced.state, ?_, rfl, replaced.continuations, rfl⟩
  change placed.currentStep?.map Step.kind = _
  rw [replaced.current, ← kind]
  rfl

/-- A line of an option goes on with the actions behind it. -/
theorem Settled.advance_actions {remaining : List ChoiceAction} {rest : List Continuation}
    (settled : interpreter.Settled)
    (left : interpreter.continuations = .choiceActions remaining :: rest) :
    ∃ offer option done, interpreter.currentKind? = some (.choice offer) ∧
      option ∈ offer.options ∧ option.actionList = done ++ remaining ∧
      interpreter.advance =
        runActions remaining { interpreter with continuations := [] }.clearScreen := by
  have top : interpreter.isInterrupted = false := by
    simp only [isInterrupted]
    rw [left]
    rfl
  have base := base_uncovered top
  have fits := settled.uncovered top
  rw [left] at base fits
  obtain ⟨waiting, rfl⟩ := fits.singleton
  have advanced := advance_left waiting left
  have line : interpreter.base.status = .dialogue := (congrArg Display.status base).trans waiting
  rcases (settled.coherent.dialogue line).2 with
    ⟨line, current, empty | ⟨next, -, parts⟩⟩ |
      ⟨offer, option, done, actions, current, member, split, same⟩
  · rw [base] at empty
    cases empty
  · rw [base] at parts
    cases parts
  · rw [base] at same
    cases same
    exact ⟨offer, option, done, current, member, split, advanced⟩

/-- When a line of an option is on screen, an advance goes on with the actions behind it. A load of
a snapshot that was taken there stands at the same step with nothing left to do, and asks again:
advances wait for an option, and the option with these actions runs all of its actions, those that
were done before included. -/
theorem performAll_asks_again (content : Content) (settings limits : StorySettings)
    (operations : List Operation) (other : Interpreter) (snapshot : Snapshot)
    (remaining : List ChoiceAction) (rest : List Continuation)
    (left : (performAll (.new content settings) operations).continuations =
      .choiceActions remaining :: rest)
    (taken : (performAll (.new content settings) operations).snapshot = .ok snapshot)
    (target : other.Sound content limits) (room : 0 < limits.maxAutoSteps)
    (same : (performAll (.new content settings) operations).state.SameContents other.state) :
    ∃ (offer : Choice) (index : Nat) (option : ChoiceOption) (done : List ChoiceAction)
        (resumed : Interpreter),
      (performAll (.new content settings) operations).currentKind? = some (.choice offer) ∧
      offer.options[index]? = some option ∧ option.actionList = done ++ remaining ∧
      (performAll (.new content settings) operations).advance =
        runActions remaining
          { performAll (.new content settings) operations with
            continuations := [], screen := .blank } ∧
      other.resumeFrom snapshot = ⟨.ok .choice, resumed⟩ ∧
      resumed.place = (performAll (.new content settings) operations).place ∧
      resumed.continuations = [] ∧
      resumed.screen.choices = offer.options.map (fun option =>
        (performAll (.new content settings) operations).state.substitute option.text) ∧
      resumed.advance = ⟨.ok .choice, resumed⟩ ∧
      resumed.select index = runActions (done ++ remaining) resumed.clearScreen := by
  have sound := performAll_sound content settings operations
  have settled := performAll_settled content settings operations
  generalize performAll (.new content settings) operations = interpreter at *
  obtain ⟨offer, option, done, current, member, split, advanced⟩ := settled.advance_actions left
  obtain ⟨index, picked⟩ := List.mem_iff_getElem?.1 member
  obtain ⟨result, state, asks⟩ := sound.resumeFrom_asks target room current taken
  have waits : interpreter.pause? = some .choice := by
    simp only [pause?]
    rw [current]
    rfl
  have saved := (snapshot_place taken).1
  have stack : snapshot.callStack = interpreter.callStack.reverse := by
    rw [show interpreter.callStack = snapshot.callStack.reverse from congrArg (·.2.2) saved,
      List.reverse_reverse]
  obtain ⟨-, place, -⟩ := sound.resumeFrom_place target room waits
    (congrArg Prod.fst saved) (congrArg (·.2.1) saved).symm stack
  have labels := asks.choices
  rw [state] at labels
  have contents : interpreter.state.SameContents other.state.touch := same
  refine ⟨offer, index, option, done, (other.resumeFrom snapshot).after, current, picked, split,
    advanced, ?_, place, asks.continuations, ?_, asks.advance, split ▸ asks.select picked⟩
  · rw [← result]
  · rw [labels]
    refine List.map_congr_left fun option member => ?_
    exact StateTree.substitute_contents option.text contents

/-- A choice whose only option leaves through a door. -/
def doorOffer : Choice :=
  ⟨none, none, [⟨"Leave", some [.dialogue none "You open the door.", .goto "hall"]⟩]⟩

/-- Content whose only unit asks whether to leave. -/
def doorContent : Content :=
  (Library.empty.addUnit ⟨"start", [⟨none, .choice doorOffer⟩, ⟨none, .finish⟩,
    ⟨some "hall", .dialogue ⟨none, "The hall.", none, []⟩⟩]⟩).toContent

/-- A story at the door, with the line of the option on screen. -/
def doorInterpreter : Interpreter :=
  performAll (.new doorContent .standard) [.start "start", .select 0]

/-- The snapshot of the story at the door. -/
def doorSnapshot : Snapshot where
  unitId := "start"
  step := 0
  callStack := []
  visible := []
  scene := none
  history := some doorInterpreter.history.entries
  audio := []
  dialoguePart := none

/-- The story goes on in the hall, unless it is loaded at the door: then it asks again. -/
theorem performAll_asks_again_door :
    doorInterpreter.snapshot = .ok doorSnapshot ∧ doorInterpreter.advance.after.step = 2 ∧
      ∃ resumed, doorInterpreter.resumeFrom doorSnapshot = ⟨.ok .choice, resumed⟩ ∧
        resumed.step = 0 ∧ resumed.advance = ⟨.ok .choice, resumed⟩ := by
  obtain ⟨offer, index, option, done, resumed, -, -, -, -, asks, place, -, -, waits, -⟩ :=
    performAll_asks_again doorContent .standard .standard [.start "start", .select 0]
      doorInterpreter doorSnapshot [.goto "hall"] [] rfl rfl
      (performAll_sound doorContent .standard _) (by decide) (.refl _)
  exact ⟨rfl, rfl, resumed, asks, congrArg (·.2.1) place, waits⟩

end VisualNovel.Interpreter
