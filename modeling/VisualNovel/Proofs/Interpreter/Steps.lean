import VisualNovel.Interpreter.Run

/-!
# What a step can do

A step keeps the story where it is, moves it, begins to wait, ends it or fails. The lemmas of this
module say for each of these results how the interpreter behind the step differs from the one in
front of it, so that no later proof opens the definition of a step.
-/

namespace VisualNovel.Interpreter

variable {interpreter after : Interpreter} {story : StoryUnit} {step : Step}
variable {cause : ContentError} {id target : String}

/-! ## Loading units -/

/-- A unit that is found among loaded units or joins them. -/
inductive Fetched (content : Content) (units : Dict StoryUnit) (id : String)
    (story : StoryUnit) : Dict StoryUnit → Prop where
  | known : Dict.get? units id = some story → Fetched content units id story units
  | loaded {source : StoryUnit} :
      content.storyUnit id = .ok source → story = { source with id } →
      Fetched content units id story (Dict.insert id story units)

theorem Fetched.get? {content : Content} {units grown : Dict StoryUnit}
    (fetched : Fetched content units id story grown) : Dict.get? grown id = some story := by
  cases fetched with
  | known found => exact found
  | loaded source named => rw [Dict.get?_insert, if_pos rfl]

/-- A unit that cannot be loaded changes nothing. -/
theorem fetchUnit_error (failed : interpreter.fetchUnit id = (.error cause, after)) :
    after = interpreter := by
  simp only [fetchUnit] at failed
  split at failed
  · cases failed
  · split at failed
    · cases failed
      rfl
    · cases failed

/-- A loaded unit is kept under its identifier, and nothing else changes. -/
theorem fetchUnit_ok (succeeded : interpreter.fetchUnit id = (.ok story, after)) :
    ∃ units, Fetched interpreter.content interpreter.units id story units ∧
      after = { interpreter with units } := by
  simp only [fetchUnit] at succeeded
  split at succeeded
  · rename_i known
    cases succeeded
    exact ⟨interpreter.units, .known known, rfl⟩
  · split at succeeded
    · cases succeeded
    · rename_i loaded
      cases succeeded
      exact ⟨_, .loaded loaded rfl, rfl⟩

/-- Looking for a unit changes nothing but the loaded units. -/
theorem fetchUnit_units (interpreter : Interpreter) (id : String) :
    ∃ units, (interpreter.fetchUnit id).2 = { interpreter with units } := by
  generalize fetched : interpreter.fetchUnit id = outcome
  obtain ⟨result, after⟩ := outcome
  cases result with
  | error cause =>
      cases fetchUnit_error fetched
      exact ⟨interpreter.units, rfl⟩
  | ok story =>
      obtain ⟨units, -, rfl⟩ := fetchUnit_ok fetched
      exact ⟨units, rfl⟩

/-! ## Loading characters -/

theorem loadEach_eq (ids : List String) (interpreter : Interpreter) :
    ∃ state, (loadEach ids interpreter).2 = { interpreter with state } := by
  induction ids generalizing interpreter with
  | nil => exact ⟨interpreter.state, rfl⟩
  | cons id ids ih =>
      simp only [loadEach]
      split
      · rename_i data loaded
        obtain ⟨state, same⟩ :=
          ih { interpreter with state := interpreter.state.insertCharacter (.ofRecord id data) }
        exact ⟨state, same⟩
      · exact ih interpreter
      · exact ⟨interpreter.state, rfl⟩

/-- Loading characters changes the state, the cast and the events. -/
theorem loadCharacters_eq (interpreter : Interpreter) (ids : List String) :
    ∃ state visible events,
      (interpreter.loadCharacters ids).2 = { interpreter with state, visible, events } := by
  obtain ⟨state, same⟩ := loadEach_eq ids interpreter
  simp only [loadCharacters]
  split
  · rename_i cause after failed
    rw [failed] at same
    cases same
    exact ⟨state, interpreter.visible, interpreter.events, rfl⟩
  · rename_i loaded after succeeded
    rw [succeeded] at same
    cases same
    exact ⟨state, _, _, rfl⟩

/-! ## Moving between units -/

/-- A jump fails when its target cannot be loaded; then only the display was cleared. -/
theorem jump_error (failed : interpreter.jump target = (.error cause, after)) :
    after = interpreter.clearDisplay := by
  simp only [jump] at failed
  split at failed
  · cases failed
    rfl
  · split at failed
    · cases failed
    · split at failed
      · rename_i fetched
        cases failed
        exact fetchUnit_error fetched
      · cases failed

/-- A jump leads to a label, or else calls a unit and remembers the step behind it. -/
theorem jump_ok {flow : Flow} (jumped : interpreter.jump target = (.ok flow, after)) :
    flow = .jumped ∧ ∃ story, interpreter.story = some story ∧
      ((∃ position, story.labelIndex? target = some position ∧
          after = { interpreter.clearDisplay with step := position }) ∨
        (story.labelIndex? target = none ∧ ∃ next units,
          Fetched interpreter.content interpreter.units target next units ∧
          after = { interpreter.clearDisplay with
            units
            story := some next
            step := 0
            callStack := ⟨story.id, interpreter.step + 1⟩ :: interpreter.callStack })) := by
  simp only [jump] at jumped
  split at jumped
  · cases jumped
  · rename_i story current
    split at jumped
    · rename_i position label
      cases jumped
      exact ⟨rfl, story, current, .inl ⟨position, label, rfl⟩⟩
    · rename_i label
      split at jumped
      · cases jumped
      · rename_i next fetched arrived
        cases jumped
        obtain ⟨units, known, rfl⟩ := fetchUnit_ok arrived
        exact ⟨rfl, story, current, .inr ⟨label, next, units, known, rfl⟩⟩

/-- A return fails when the unit of the caller cannot be loaded; then nothing changes. -/
theorem returnToCaller_error (failed : interpreter.returnToCaller = (.error cause, after)) :
    after = interpreter := by
  simp only [returnToCaller] at failed
  split at failed
  · cases failed
  · split at failed
    · rename_i fetched
      cases failed
      exact fetchUnit_error fetched
    · cases failed

/-- A return takes the innermost frame off and goes to its position, or else the story is
complete. -/
theorem returnToCaller_ok {flow : Flow} (returned : interpreter.returnToCaller = (.ok flow, after)) :
    (flow = .complete ∧ interpreter.callStack = [] ∧ after = interpreter) ∨
      (flow = .jumped ∧ ∃ frame callStack story units,
        interpreter.callStack = frame :: callStack ∧
        Fetched interpreter.content interpreter.units frame.unitId story units ∧
        after = { interpreter.clearDisplay with
          units, callStack, story := some story, step := frame.step }) := by
  simp only [returnToCaller] at returned
  split at returned
  · rename_i empty
    cases returned
    exact .inl ⟨rfl, empty, rfl⟩
  · rename_i frame callStack stacked
    split at returned
    · cases returned
    · rename_i story fetched arrived
      cases returned
      obtain ⟨units, known, rfl⟩ := fetchUnit_ok arrived
      exact .inr ⟨rfl, frame, callStack, story, units, stacked, known, rfl⟩

/-- What neither the display nor the position tells is kept by a jump. -/
theorem jump_field {α : Type} (field : Interpreter → α)
    (kept : ∀ units story step callStack,
      field { interpreter.clearDisplay with units, story, step, callStack } = field interpreter)
    (target : String) : field (interpreter.jump target).2 = field interpreter := by
  generalize jumped : interpreter.jump target = moved
  obtain ⟨result, after⟩ := moved
  cases result with
  | error cause =>
      cases jump_error jumped
      exact kept ..
  | ok flow =>
      obtain ⟨-, story, -, ⟨position, -, rfl⟩ | ⟨-, next, units, -, rfl⟩⟩ := jump_ok jumped
      · exact kept ..
      · exact kept ..

/-- What neither the display nor the position tells is kept by a return. -/
theorem returnToCaller_field {α : Type} (field : Interpreter → α)
    (kept : ∀ units story step callStack,
      field { interpreter.clearDisplay with units, story, step, callStack } = field interpreter) :
    field interpreter.returnToCaller.2 = field interpreter := by
  generalize returned : interpreter.returnToCaller = moved
  obtain ⟨result, after⟩ := moved
  cases result with
  | error cause =>
      cases returnToCaller_error returned
      rfl
  | ok flow =>
      rcases returnToCaller_ok returned with ⟨-, -, rfl⟩ | ⟨-, _, _, _, _, -, -, rfl⟩
      · rfl
      · exact kept ..

/-! ## Steps that another one follows -/

/-- What a step does when the next one follows it. -/
inductive Effect (interpreter : Interpreter) : Interpreter → Prop where
  | nothing : Effect interpreter interpreter
  | settled : Effect interpreter { interpreter with restoring := false }
  | assigned (expression : String) : Effect interpreter (interpreter.assign expression)
  | changedScene {id : String} {scene : Scene} :
      interpreter.content.scene id = .ok scene →
      Effect interpreter { interpreter with scene := some scene }
  | shown (id : String) : Effect interpreter (interpreter.showCharacter id)
  | hidden (id : String) : Effect interpreter (interpreter.hideCharacter id)
  | played (channel : StreamKind) (cue : AudioCue) :
      Effect interpreter (interpreter.playCue channel cue)
  | stopped (stream : String) :
      Effect interpreter { interpreter with audio := interpreter.audio.stop stream }
  | silenced : Effect interpreter { interpreter with audio := interpreter.audio.stopAll }

theorem Effect.unlessRestoring {change : Interpreter → Interpreter}
    (effect : Effect interpreter (change interpreter)) :
    Effect interpreter (interpreter.unlessRestoring change).2 := by
  simp only [Interpreter.unlessRestoring]
  split
  · exact .nothing
  · exact effect

/-- The kind of the current step. -/
def currentKind? (interpreter : Interpreter) : Option StepKind :=
  interpreter.currentStep?.map Step.kind

/-- A change that leaves the story where it stands, with as much left to do. -/
structure Standing (before after : Interpreter) : Prop where
  content : after.content = before.content := by rfl
  settings : after.settings = before.settings := by rfl
  units : after.units = before.units := by rfl
  story : after.story = before.story := by rfl
  step : after.step = before.step := by rfl
  callStack : after.callStack = before.callStack := by rfl
  continuations : after.continuations = before.continuations := by rfl
  timer : after.timer = before.timer := by rfl
  effectPending : after.effectPending = before.effectPending := by rfl

theorem Standing.trans {between : Interpreter} (first : Standing interpreter between)
    (second : Standing between after) : Standing interpreter after where
  content := second.content.trans first.content
  settings := second.settings.trans first.settings
  units := second.units.trans first.units
  story := second.story.trans first.story
  step := second.step.trans first.step
  callStack := second.callStack.trans first.callStack
  continuations := second.continuations.trans first.continuations
  timer := second.timer.trans first.timer
  effectPending := second.effectPending.trans first.effectPending

theorem Standing.currentStep? (standing : Standing interpreter after) :
    after.currentStep? = interpreter.currentStep? := by
  simp only [Interpreter.currentStep?]
  rw [standing.story, standing.step]

theorem Standing.currentKind? (standing : Standing interpreter after) :
    after.currentKind? = interpreter.currentKind? :=
  congrArg (Option.map Step.kind) standing.currentStep?

/-- A change of the state, the scene, the cast or the audio, which leaves the screen as it is. -/
structure Backstage (before after : Interpreter) : Prop extends Standing before after where
  screen : after.screen = before.screen := by rfl
  history : after.history = before.history := by rfl
  status : after.status = before.status := by rfl

theorem assignOptional_backstage (interpreter : Interpreter) (expression : Option String) :
    Backstage interpreter (interpreter.assignOptional expression) := by
  cases expression <;> exact {}

theorem showCharacter_backstage (interpreter : Interpreter) (id : String) :
    Backstage interpreter (interpreter.showCharacter id) := by
  simp only [showCharacter]
  split <;> exact {}

theorem hideCharacter_backstage (interpreter : Interpreter) (id : String) :
    Backstage interpreter (interpreter.hideCharacter id) :=
  {}

/-- A step that another one follows works behind the stage. -/
theorem Effect.backstage (effect : Effect interpreter after) : Backstage interpreter after := by
  cases effect with
  | shown id => exact showCharacter_backstage interpreter id
  | hidden id => exact hideCharacter_backstage interpreter id
  | _ => exact {}

/-! ## One step -/

/-- What a step does when it waits, with the status it waits in. -/
inductive Pause (interpreter : Interpreter) (step : Step) : Status → Interpreter → Prop where
  | dialogue {line : Dialogue} :
      step.kind = .dialogue line →
      Pause interpreter step .dialogue (interpreter.showDialogue line).2
  | titles {card : Titles} :
      step.kind = .titles card → interpreter.restoring = false →
      Pause interpreter step (.titles card.durationMs?) (interpreter.showTitles card).2
  | input {path text : Option String} :
      step.kind = .input path text →
      Pause interpreter step .input (interpreter.showInput path text).2
  | choice {offer : Choice} :
      step.kind = .choice offer →
      Pause interpreter step .choice (interpreter.showChoice offer).2

/-- What a step does, by its kind. -/
inductive Performed (interpreter : Interpreter) (step : Step) : Dispatched → Prop where
  | passed {after : Interpreter} :
      Effect interpreter after → Performed interpreter step (.ok .next, after)
  | jump {target : String} {dispatched : Dispatched} :
      step.kind = .goto target → interpreter.jump target = dispatched →
      Performed interpreter step dispatched
  | back {dispatched : Dispatched} :
      step.kind = .back → interpreter.returnToCaller = dispatched →
      Performed interpreter step dispatched
  | finish {dispatched : Dispatched} :
      step.kind = .finish → { interpreter with restoring := false }.returnToCaller = dispatched →
      Performed interpreter step dispatched
  | paused {status : Status} {after : Interpreter} :
      Pause interpreter step status after →
      Performed interpreter step (.ok (.suspend status), after)
  | sceneLost {cause : ContentError} :
      Performed interpreter step (.error cause, interpreter)

theorem Performed.unlessRestoring {change : Interpreter → Interpreter}
    (effect : Effect interpreter (change interpreter)) :
    Performed interpreter step (interpreter.unlessRestoring change) :=
  .passed (Effect.unlessRestoring effect)

theorem Performed.changeScene (interpreter : Interpreter) (step : Step) (id : String) :
    Performed interpreter step (interpreter.changeScene id) := by
  simp only [Interpreter.changeScene]
  split
  · rename_i scene found
    exact .passed (.changedScene found)
  · exact .sceneLost

/-- A line waits in every case. -/
theorem showDialogue_eq (interpreter : Interpreter) (line : Dialogue) :
    interpreter.showDialogue line =
      (.ok (.suspend .dialogue), (interpreter.showDialogue line).2) := by
  simp only [showDialogue]
  split <;> rfl

/-- Every step does what its kind says. -/
theorem dispatch_performed (interpreter : Interpreter) (step : Step) :
    Performed interpreter step (interpreter.dispatch step) := by
  cases kind : step.kind with
  | assign expression =>
      simp only [dispatch, kind]
      exact .passed (.assigned expression)
  | scene name =>
      simp only [dispatch, kind]
      split
      · split
        · exact .passed .nothing
        · exact .changeScene interpreter step _
      · exact .passed .nothing
  | «show» character =>
      simp only [dispatch, kind]
      exact .unlessRestoring (.shown character)
  | hide character =>
      simp only [dispatch, kind]
      exact .unlessRestoring (.hidden character)
  | play channel cue =>
      simp only [dispatch, kind]
      exact .unlessRestoring (.played channel cue)
  | stopStream stream =>
      simp only [dispatch, kind]
      exact .unlessRestoring (.stopped stream)
  | stopAllStreams =>
      simp only [dispatch, kind]
      exact .unlessRestoring .silenced
  | dialogue line =>
      simp only [dispatch, kind]
      rw [showDialogue_eq]
      exact .paused (.dialogue kind)
  | titles card =>
      simp only [dispatch, kind]
      split
      · exact .passed .settled
      · rename_i settled
        exact .paused (.titles kind (by simpa using settled))
  | input path text =>
      simp only [dispatch, kind]
      exact .paused (.input kind)
  | choice offer =>
      simp only [dispatch, kind]
      exact .paused (.choice kind)
  | goto target =>
      simp only [dispatch, kind]
      exact .jump kind rfl
  | back =>
      simp only [dispatch, kind]
      exact .back kind rfl
  | finish =>
      simp only [dispatch, kind]
      exact .finish kind rfl

theorem dispatch_next (passed : interpreter.dispatch step = (.ok .next, after)) :
    Effect interpreter after := by
  have performed := dispatch_performed interpreter step
  rw [passed] at performed
  cases performed with
  | passed effect => exact effect
  | jump kind jumped =>
      obtain ⟨flow, -⟩ := jump_ok jumped
      cases flow
  | back kind returned => rcases returnToCaller_ok returned with ⟨flow, -⟩ | ⟨flow, -⟩ <;> cases flow
  | finish kind returned =>
      rcases returnToCaller_ok returned with ⟨flow, -⟩ | ⟨flow, -⟩ <;> cases flow

theorem dispatch_suspend {status : Status}
    (waiting : interpreter.dispatch step = (.ok (.suspend status), after)) :
    Pause interpreter step status after := by
  have performed := dispatch_performed interpreter step
  rw [waiting] at performed
  cases performed with
  | paused pause => exact pause
  | jump kind jumped =>
      obtain ⟨flow, -⟩ := jump_ok jumped
      cases flow
  | back kind returned => rcases returnToCaller_ok returned with ⟨flow, -⟩ | ⟨flow, -⟩ <;> cases flow
  | finish kind returned =>
      rcases returnToCaller_ok returned with ⟨flow, -⟩ | ⟨flow, -⟩ <;> cases flow

/-- A step that completes the story returns without a caller. -/
theorem dispatch_complete (completed : interpreter.dispatch step = (.ok .complete, after)) :
    interpreter.callStack = [] ∧
      (after = interpreter ∨ after = { interpreter with restoring := false }) := by
  have performed := dispatch_performed interpreter step
  rw [completed] at performed
  cases performed with
  | jump kind jumped =>
      obtain ⟨flow, -⟩ := jump_ok jumped
      cases flow
  | back kind returned =>
      rcases returnToCaller_ok returned with ⟨-, empty, same⟩ | ⟨flow, -⟩
      · exact ⟨empty, .inl same⟩
      · cases flow
  | finish kind returned =>
      rcases returnToCaller_ok returned with ⟨-, empty, same⟩ | ⟨flow, -⟩
      · exact ⟨empty, .inr same⟩
      · cases flow

/-- A step that fails leaves the story where it stands; a jump has cleared the display. -/
theorem dispatch_error (failed : interpreter.dispatch step = (.error cause, after)) :
    after = interpreter ∨ after = interpreter.clearDisplay ∨
      after = { interpreter with restoring := false } := by
  have performed := dispatch_performed interpreter step
  rw [failed] at performed
  cases performed with
  | sceneLost => exact .inl rfl
  | jump kind jumped => exact .inr (.inl (jump_error jumped))
  | back kind returned => exact .inl (returnToCaller_error returned)
  | finish kind returned => exact .inr (.inr (returnToCaller_error returned))

end VisualNovel.Interpreter
