import VisualNovel.Proofs.Interpreter.Sound

/-!
# The position of a story

A story stands at a step of a unit, with positions to return to. A round leaves it there, or moves
it by one of a few moves. Units are known by the identifiers they are loaded under, so the
identifier in a frame finds the unit that pushed it.
-/

namespace VisualNovel

/-- The unit that is loaded under an identifier. -/
def Content.unit? (content : Content) (id : String) : Option StoryUnit :=
  (content.storyUnit id).toOption.map fun source => { source with id }

/-- Where a story stands. -/
structure Position where
  /-- The current unit. -/
  story : Option StoryUnit
  /-- The position of the current step. -/
  step : Nat
  /-- The positions to return to, the innermost first. -/
  callStack : List CallFrame

namespace Position

/-- A jump to a name that is no label of the current unit, but the name of another one, leads to the
first step of that unit and remembers the step behind the jump. -/
def Calls (content : Content) (position : Position) (target : String) (callee : Position) : Prop :=
  ∃ story next, position.story = some story ∧ story.labelIndex? target = none ∧
    content.unit? target = some next ∧
    callee = ⟨some next, 0, ⟨story.id, position.step + 1⟩ :: position.callStack⟩

/-- A return takes the innermost frame off and leads to its unit and its step. -/
def Returns (content : Content) (position caller : Position) : Prop :=
  ∃ frame callStack story, position.callStack = frame :: callStack ∧
    content.unit? frame.unitId = some story ∧ caller = ⟨some story, frame.step, callStack⟩

/-- What happens to a position at once. -/
inductive Move (content : Content) (position : Position) : Position → Prop where
  | stay : Move content position position
  | forward : Move content position { position with step := position.step + 1 }
  | label {story : StoryUnit} {target : String} {step : Nat} :
      position.story = some story → story.labelIndex? target = some step →
      Move content position { position with step }
  | call {target : String} {callee : Position} :
      position.Calls content target callee → Move content position callee
  | back {caller : Position} : position.Returns content caller → Move content position caller

/-- Whether the unit of every frame can be loaded. -/
def Returnable (content : Content) (position : Position) : Prop :=
  ∀ frame ∈ position.callStack, (content.unit? frame.unitId).isSome

end Position

variable {content : Content} {settings : StorySettings}

theorem Content.unit?_eq_some {id : String} {story : StoryUnit} :
    content.unit? id = some story ↔
      ∃ source, content.storyUnit id = .ok source ∧ story = { source with id } := by
  simp only [Content.unit?]
  cases content.storyUnit id with
  | error cause => simp [Except.toOption]
  | ok source => simp [Except.toOption, eq_comm]

theorem Content.unit?_id {id : String} {story : StoryUnit}
    (loaded : content.unit? id = some story) : story.id = id := by
  obtain ⟨source, -, rfl⟩ := Content.unit?_eq_some.1 loaded
  rfl

namespace Interpreter

variable {interpreter after : Interpreter} {story next : StoryUnit} {step : Step}

/-- Where the story stands. -/
def position (interpreter : Interpreter) : Position :=
  ⟨interpreter.story, interpreter.step, interpreter.callStack⟩

/-- The units of the interpreter are those of the content. -/
structure Supplied (content : Content) (interpreter : Interpreter) : Prop where
  source : interpreter.content = content
  units : ∀ {id story}, Dict.get? interpreter.units id = some story →
    content.unit? id = some story
  story : ∀ {story}, interpreter.story = some story → content.unit? story.id = some story

theorem Sound.supplied (sound : interpreter.Sound content settings) :
    interpreter.Supplied content where
  source := sound.source
  units := by
    intro id story found
    exact Content.unit?_eq_some.2 (sound.units found).2
  story := by
    intro story current
    exact Content.unit?_eq_some.2 (sound.units (sound.story current)).2

/-! ## Changes that leave the story where it stands -/

/-- The units and the position stay as they are. -/
structure Keeps (before after : Interpreter) : Prop where
  content : after.content = before.content
  units : after.units = before.units
  position : after.position = before.position

theorem Keeps.trans {between : Interpreter} (first : Keeps interpreter between)
    (second : Keeps between after) : Keeps interpreter after where
  content := second.content.trans first.content
  units := second.units.trans first.units
  position := second.position.trans first.position

theorem currentKind?_position (same : after.position = interpreter.position) :
    after.currentKind? = interpreter.currentKind? := by
  have story : after.story = interpreter.story := congrArg Position.story same
  have step : after.step = interpreter.step := congrArg Position.step same
  simp only [currentKind?, currentStep?]
  rw [story, step]

theorem Standing.keeps (standing : Standing interpreter after) : Keeps interpreter after where
  content := standing.content
  units := standing.units
  position := by
    simp only [Interpreter.position]
    rw [standing.story, standing.step, standing.callStack]

theorem Keeps.supplied (keeps : Keeps interpreter after) (supplied : interpreter.Supplied content) :
    after.Supplied content where
  source := keeps.content.trans supplied.source
  units := by
    rw [keeps.units]
    exact supplied.units
  story := by
    intro story current
    have same : after.story = interpreter.story := congrArg Position.story keeps.position
    exact supplied.story (same.symm.trans current)

theorem showDialogue_keeps (interpreter : Interpreter) (line : Dialogue) :
    Keeps interpreter (interpreter.showDialogue line).2 := by
  cases restoring : interpreter.restoring with
  | true =>
      obtain ⟨screen, -, same⟩ := showDialogue_restoring restoring line
      rw [same]
      exact ⟨rfl, rfl, rfl⟩
  | false =>
      have assigned := (assignOptional_backstage interpreter line.assignment).keeps
      obtain ⟨screen, entry, -, -, same⟩ := showDialogue_fresh restoring line
      rw [same]
      exact assigned.trans ⟨rfl, rfl, rfl⟩

theorem showTitles_keeps (interpreter : Interpreter) (card : Titles) :
    Keeps interpreter (interpreter.showTitles card).2 := by
  have assigned := (assignOptional_backstage interpreter card.assignment).keeps
  simp only [showTitles]
  cases card.durationMs? with
  | none => exact assigned.trans ⟨rfl, rfl, rfl⟩
  | some durationMs => exact assigned.trans ⟨rfl, rfl, rfl⟩

theorem Pause.keeps {status : Status} (pause : Pause interpreter step status after) :
    Keeps interpreter after := by
  cases pause with
  | @dialogue line kind => exact showDialogue_keeps interpreter line
  | @titles card kind fresh => exact showTitles_keeps interpreter card
  | input kind => exact ⟨rfl, rfl, rfl⟩
  | choice kind => exact ⟨rfl, rfl, rfl⟩

theorem complete_keeps (interpreter : Interpreter) :
    Keeps interpreter interpreter.complete.after := by
  simp only [complete]
  split <;> exact ⟨rfl, rfl, rfl⟩

/-- A run ends where it stands. -/
theorem Ending.keeps {dispatched : Nat} {outcome : Outcome}
    (ending : Ending dispatched interpreter outcome) : Keeps interpreter outcome.after := by
  cases ending with
  | completed finished => exact complete_keeps interpreter
  | limited found reached => exact ⟨rfl, rfl, rfl⟩
  | paused current found below pause => exact pause.keeps.trans ⟨rfl, rfl, rfl⟩
  | failed same =>
      rcases same with rfl | rfl | rfl
      · exact ⟨rfl, rfl, rfl⟩
      · exact ⟨rfl, rfl, rfl⟩
      · exact ⟨rfl, rfl, rfl⟩

/-! ## Loading units -/

namespace Supplied

theorem fetched {id : String} {units : Dict StoryUnit} (supplied : interpreter.Supplied content)
    (fetched : Fetched interpreter.content interpreter.units id story units) :
    content.unit? id = some story ∧ Supplied content { interpreter with units } := by
  cases fetched with
  | known found => exact ⟨supplied.units found, supplied⟩
  | @loaded source loaded named =>
      have found : content.unit? id = some story :=
        Content.unit?_eq_some.2 ⟨source, supplied.source ▸ loaded, named⟩
      refine ⟨found, { supplied with units := ?_ }⟩
      intro key other known
      rw [Dict.get?_insert] at known
      split at known
      · rename_i same
        cases known
        exact same ▸ found
      · exact supplied.units known

/-- A unit of the content is found. -/
theorem fetchUnit {id : String} (supplied : interpreter.Supplied content)
    (loaded : content.unit? id = some story) :
    ∃ units, interpreter.fetchUnit id = (.ok story, { interpreter with units }) ∧
      Supplied content { interpreter with units } := by
  generalize fetched : interpreter.fetchUnit id = result
  obtain ⟨result, after⟩ := result
  cases result with
  | error cause =>
      obtain ⟨source, delivered, -⟩ := Content.unit?_eq_some.1 loaded
      simp only [Interpreter.fetchUnit] at fetched
      rw [supplied.source, delivered] at fetched
      split at fetched <;> cases fetched
  | ok other =>
      obtain ⟨units, known, rfl⟩ := fetchUnit_ok fetched
      obtain ⟨same, grown⟩ := supplied.fetched known
      rw [loaded] at same
      cases same
      exact ⟨units, rfl, grown⟩

/-- A unit that the content cannot load is not found. -/
theorem fetchUnit_lost {id : String} {cause : ContentError}
    (supplied : interpreter.Supplied content) (lost : content.storyUnit id = .error cause) :
    interpreter.fetchUnit id = (.error cause, interpreter) := by
  simp only [Interpreter.fetchUnit]
  cases known : Dict.get? interpreter.units id with
  | some story =>
      obtain ⟨source, delivered, -⟩ := Content.unit?_eq_some.1 (supplied.units known)
      rw [lost] at delivered
      cases delivered
  | none => rw [supplied.source, lost]

/-- The story enters a unit that can be loaded. -/
theorem enters {id : String} (supplied : interpreter.Supplied content)
    (loaded : content.unit? id = some next) (source : after.content = interpreter.content)
    (units : after.units = interpreter.units) (running : after.story = some next) :
    after.Supplied content where
  source := source.trans supplied.source
  units := units ▸ supplied.units
  story := by
    intro story current
    rw [running] at current
    cases current
    rw [Content.unit?_id loaded]
    exact loaded

/-- The story moves to a unit that was found. -/
theorem moved (after : Interpreter) {id : String} {units : Dict StoryUnit}
    (supplied : interpreter.Supplied content)
    (fetched : Fetched interpreter.content interpreter.units id next units)
    (content_eq : after.content = interpreter.content) (units_eq : after.units = units)
    (story_eq : after.story = some next) :
    content.unit? id = some next ∧ after.Supplied content := by
  obtain ⟨loaded, grown⟩ := supplied.fetched fetched
  exact ⟨loaded, grown.enters loaded content_eq units_eq story_eq⟩

end Supplied

/-! ## Moving -/

/-- A jump leads to a label or into another unit. -/
theorem Supplied.jump {target : String} {flow : Flow} (supplied : interpreter.Supplied content)
    (jumped : interpreter.jump target = (.ok flow, after)) :
    after.Supplied content ∧
      ((∃ story step, interpreter.story = some story ∧ story.labelIndex? target = some step ∧
          after.position = { interpreter.position with step }) ∨
        interpreter.position.Calls content target after.position) := by
  obtain ⟨-, story, current, ⟨position, label, rfl⟩ | ⟨label, next, units, known, rfl⟩⟩ :=
    jump_ok jumped
  · exact ⟨{ supplied with }, .inl ⟨story, position, current, label, rfl⟩⟩
  · obtain ⟨loaded, called⟩ := supplied.moved { interpreter.clearDisplay with
      units, story := some next, step := 0
      callStack := ⟨story.id, interpreter.step + 1⟩ :: interpreter.callStack } known rfl rfl rfl
    exact ⟨called, .inr ⟨story, next, current, label, loaded, rfl⟩⟩

theorem Supplied.jump_move {target : String} {flow : Flow} (supplied : interpreter.Supplied content)
    (jumped : interpreter.jump target = (.ok flow, after)) :
    Position.Move content interpreter.position after.position := by
  rcases (supplied.jump jumped).2 with ⟨story, step, current, label, same⟩ | calls
  · rw [same]
    exact .label current label
  · exact .call calls

/-- A return leads to the innermost caller. -/
theorem Supplied.returnToCaller (supplied : interpreter.Supplied content)
    (returned : interpreter.returnToCaller = (.ok .jumped, after)) :
    after.Supplied content ∧ interpreter.position.Returns content after.position := by
  rcases returnToCaller_ok returned with
    ⟨flow, -⟩ | ⟨-, frame, callStack, story, units, stack, known, rfl⟩
  · cases flow
  · obtain ⟨loaded, called⟩ := supplied.moved { interpreter.clearDisplay with
      units, callStack, story := some story, step := frame.step } known rfl rfl rfl
    exact ⟨called, frame, callStack, story, stack, loaded, rfl⟩

/-- Every round of a run moves the story. -/
theorem Supplied.round {dispatched following : Nat} (supplied : interpreter.Supplied content)
    (round : Round dispatched interpreter following after) :
    after.Supplied content ∧ Position.Move content interpreter.position after.position := by
  cases round with
  | returned current exhausted returned =>
      obtain ⟨moved, returns⟩ := supplied.returnToCaller returned
      exact ⟨moved, .back returns⟩
  | @passed effected _ _ current found below effect =>
      have keeps := effect.backstage.keeps
      refine ⟨{ keeps.supplied supplied with }, ?_⟩
      have same : { effected with step := effected.step + 1 }.position =
          { interpreter.position with step := interpreter.position.step + 1 } := by
        rw [← keeps.position]
        rfl
      rw [same]
      exact .forward
  | @jumped _ _ step current found below jumped =>
      have performed := dispatch_performed interpreter step
      rw [jumped] at performed
      cases performed with
      | jump kind jumped => exact ⟨(supplied.jump jumped).1, supplied.jump_move jumped⟩
      | back kind returned =>
          obtain ⟨moved, returns⟩ := supplied.returnToCaller returned
          exact ⟨moved, .back returns⟩
      | finish kind returned =>
          have settled : Supplied content { interpreter with restoring := false } :=
            { supplied with }
          obtain ⟨moved, returns⟩ := settled.returnToCaller returned
          exact ⟨moved, .back returns⟩

/-! ## Calls and returns of a supplied interpreter -/

/-- A jump to a unit calls it. -/
theorem Supplied.jump_calls {target : String} {callee : Position}
    (supplied : interpreter.Supplied content)
    (calls : interpreter.position.Calls content target callee) :
    ∃ after, interpreter.jump target = (.ok .jumped, after) ∧ after.position = callee := by
  obtain ⟨story, next, current, label, loaded, rfl⟩ := calls
  have cleared : interpreter.clearDisplay.Supplied content := { supplied with }
  obtain ⟨units, fetched, -⟩ := cleared.fetchUnit loaded
  refine ⟨{ interpreter.clearDisplay with
    units, story := some next, step := 0
    callStack := ⟨story.id, interpreter.step + 1⟩ :: interpreter.callStack }, ?_, rfl⟩
  simp only [Interpreter.jump]
  rw [show interpreter.clearDisplay.story = some story from current]
  dsimp only
  rw [label]
  dsimp only
  rw [fetched]
  rfl

/-- A return to a unit that can be loaded does not fail. -/
theorem Supplied.returnToCaller_returns {caller : Position}
    (supplied : interpreter.Supplied content)
    (returns : interpreter.position.Returns content caller) :
    ∃ after, interpreter.returnToCaller = (.ok .jumped, after) ∧ after.position = caller := by
  obtain ⟨frame, callStack, story, stack, loaded, rfl⟩ := returns
  obtain ⟨units, fetched, -⟩ := supplied.fetchUnit loaded
  refine ⟨{ interpreter.clearDisplay with
    units, callStack, story := some story, step := frame.step }, ?_, rfl⟩
  simp only [Interpreter.returnToCaller]
  rw [show interpreter.callStack = frame :: callStack from stack]
  dsimp only
  rw [fetched]
  rfl

end Interpreter

namespace Position

variable {position after : Position}

/-- A return from a position with a caller has somewhere to go. -/
theorem Returnable.returns (returnable : position.Returnable content)
    (called : position.callStack ≠ []) : ∃ caller, position.Returns content caller := by
  obtain ⟨frame, callStack, stack⟩ := List.exists_cons_of_ne_nil called
  have present := returnable frame (stack ▸ List.mem_cons_self ..)
  obtain ⟨story, loaded⟩ := Option.isSome_iff_exists.1 present
  exact ⟨_, frame, callStack, story, stack, loaded, rfl⟩

/-- A frame that is pushed names a unit that can be loaded. -/
theorem Returnable.move (returnable : position.Returnable content)
    (known : ∀ {story}, position.story = some story → content.unit? story.id = some story)
    (move : Move content position after) : after.Returnable content := by
  cases move with
  | stay => exact returnable
  | forward => exact returnable
  | label current label => exact returnable
  | call calls =>
      obtain ⟨story, next, current, label, loaded, rfl⟩ := calls
      intro frame member
      rcases List.mem_cons.1 member with rfl | older
      · exact Option.isSome_iff_exists.2 ⟨story, known current⟩
      · exact returnable frame older
  | back returns =>
      obtain ⟨frame, callStack, story, stack, loaded, rfl⟩ := returns
      intro older member
      exact returnable older (stack ▸ List.mem_cons_of_mem _ member)

end Position

end VisualNovel
