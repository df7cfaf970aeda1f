import VisualNovel.Proofs.Interpreter.Lines
import VisualNovel.Proofs.Interpreter.Operation
import VisualNovel.Proofs.Interpreter.Termination
import VisualNovel.Proofs.State.Ordered

/-!
# How operations change the world

The world of an interpreter is what outlives the screen: the loaded units, the state, the scene,
the cast, the audio and the log. Every operation but the loading of characters changes it by a
sequence of small changes, so a property that each of these keeps holds in every interpreter that a
host can reach.
-/

namespace VisualNovel

/-- What an interpreter holds behind the screen. -/
structure World where
  content : Content
  settings : StorySettings
  units : Dict StoryUnit
  story : Option StoryUnit
  state : StateTree
  scene : Option Scene
  visible : List String
  audio : AudioRegistry
  history : History

/-- The changes of the state by paths, assignments and new global maps. The interpreter makes no
others by itself. -/
inductive StateEdit : (StateTree → StateTree) → Prop where
  | write (path : String) {value : Value} :
      value.Ordered → StateEdit fun state => (state.write path value).1
  | assign (expression : String) : StateEdit fun state => state.assigned expression
  | setGlobal {entries : Dict Value} :
      (Value.map entries).Ordered → StateEdit fun state => state.setGlobal entries
  | touch : StateEdit StateTree.touch

namespace World

/-- A small change of a world. What may be done to the state is given by `edits`. -/
inductive Change (edits : (StateTree → StateTree) → Prop) (world : World) : World → Prop where
  | fetched {id : String} {story : StoryUnit} {units : Dict StoryUnit} :
      Interpreter.Fetched world.content world.units id story units →
      Change edits world { world with units }
  | entered {id : String} {story : StoryUnit} :
      Dict.get? world.units id = some story → Change edits world { world with story := some story }
  | left : Change edits world { world with story := none }
  | edited {change : StateTree → StateTree} :
      edits change → Change edits world { world with state := change world.state }
  | changedScene {id : String} {scene : Scene} :
      world.content.scene id = .ok scene → Change edits world { world with scene := some scene }
  | leftScene : Change edits world { world with scene := none }
  | cast (visible : List String) :
      (∀ id ∈ visible, id ∈ world.visible ∨ (world.state.character? id).isSome = true) →
      Change edits world { world with visible }
  | played (stream : AudioStream) {audio : AudioRegistry} :
      audio.streams = Dict.insert stream.id stream world.audio.streams →
      Change edits world { world with audio }
  | stopped {id : String} {audio : AudioRegistry} :
      audio.streams = Dict.erase id world.audio.streams → Change edits world { world with audio }
  | silenced (audio : AudioRegistry) :
      audio.streams = [] → Change edits world { world with audio }
  | signalled {audio : AudioRegistry} :
      audio.streams = world.audio.streams → Change edits world { world with audio }
  | logged (line : HistoryEntry) :
      Change edits world { world with history := world.history.push line }
  | relogged (lines : List HistoryEntry) :
      Change edits world { world with history := world.history.replace lines }

/-- A sequence of small changes. -/
inductive Changes (edits : (StateTree → StateTree) → Prop) (world : World) : World → Prop where
  | refl : Changes edits world world
  | snoc {between after : World} :
      Changes edits world between → Change edits between after → Changes edits world after

variable {edits : (StateTree → StateTree) → Prop} {before between after : World}

theorem Changes.trans (first : Changes edits before between)
    (second : Changes edits between after) : Changes edits before after := by
  induction second with
  | refl => exact first
  | snoc _ change ih => exact ih.snoc change

theorem Change.changes (change : Change edits before after) : Changes edits before after :=
  Changes.refl.snoc change

/-- What every small change keeps is kept by a sequence of them. -/
theorem Changes.keeps {kept : World → Prop}
    (each : ∀ {before after}, kept before → Change edits before after → kept after)
    (changes : Changes edits before after) (holds : kept before) : kept after := by
  induction changes with
  | refl => exact holds
  | snoc _ change ih => exact each ih change

end World

/-- The operations that load no characters, and that edit the state as allowed. -/
def Operation.Within (edits : (StateTree → StateTree) → Prop) : Operation → Prop
  | .loadCharacters _ => False
  | .edit change => edits change
  | _ => True

namespace Interpreter

variable {interpreter after : Interpreter} {step : Step} {edits : (StateTree → StateTree) → Prop}

/-- The world of an interpreter. -/
def world (interpreter : Interpreter) : World where
  content := interpreter.content
  settings := interpreter.settings
  units := interpreter.units
  story := interpreter.story
  state := interpreter.state
  scene := interpreter.scene
  visible := interpreter.visible
  audio := interpreter.audio
  history := interpreter.history

/-- The world of one interpreter comes from that of another by small changes. -/
def Evolves (edits : (StateTree → StateTree) → Prop) (before after : Interpreter) : Prop :=
  World.Changes edits before.world after.world

theorem Evolves.refl (interpreter : Interpreter) : Evolves edits interpreter interpreter :=
  World.Changes.refl

theorem Evolves.trans {between : Interpreter} (first : Evolves edits interpreter between)
    (second : Evolves edits between after) : Evolves edits interpreter after :=
  World.Changes.trans first second

theorem Evolves.change (change : World.Change edits interpreter.world after.world) :
    Evolves edits interpreter after :=
  change.changes

/-! ## Steps and runs -/

/-- A unit that was found becomes the current one. -/
theorem Fetched.evolves {id : String} {story : StoryUnit} {units : Dict StoryUnit}
    (fetched : Fetched interpreter.content interpreter.units id story units) :
    Evolves edits interpreter { interpreter with units, story := some story } :=
  (World.Change.fetched fetched).changes.snoc (.entered fetched.get?)

theorem jump_evolves {target : String} {flow : Flow}
    (jumped : interpreter.jump target = (.ok flow, after)) : Evolves edits interpreter after := by
  obtain ⟨-, story, -, ⟨position, -, rfl⟩ | ⟨-, next, units, fetched, rfl⟩⟩ := jump_ok jumped
  · exact Evolves.refl interpreter
  · exact fetched.evolves

theorem returnToCaller_evolves (returned : interpreter.returnToCaller = (.ok .jumped, after)) :
    Evolves edits interpreter after := by
  rcases returnToCaller_ok returned with ⟨flow, -⟩ | ⟨-, frame, rest, story, units, -, fetched, rfl⟩
  · cases flow
  · exact fetched.evolves

theorem dispatch_jumped_evolves (jumped : interpreter.dispatch step = (.ok .jumped, after)) :
    Evolves edits interpreter after := by
  have performed := dispatch_performed interpreter step
  rw [jumped] at performed
  cases performed with
  | jump kind jumped => exact jump_evolves jumped
  | back kind returned => exact returnToCaller_evolves returned
  | finish kind returned =>
      have evolves : Evolves edits { interpreter with restoring := false } after :=
        returnToCaller_evolves returned
      exact evolves

section

variable (own : ∀ {change : StateTree → StateTree}, StateEdit change → edits change)

include own

theorem assign_evolves (interpreter : Interpreter) (expression : String) :
    Evolves edits interpreter (interpreter.assign expression) :=
  .change (.edited (own (.assign expression)))

theorem assignOptional_evolves (interpreter : Interpreter) (expression : Option String) :
    Evolves edits interpreter (interpreter.assignOptional expression) := by
  cases expression with
  | none => exact .refl interpreter
  | some expression => exact assign_evolves own interpreter expression

omit own in
theorem showCharacter_evolves (interpreter : Interpreter) (id : String) :
    Evolves edits interpreter (interpreter.showCharacter id) := by
  simp only [showCharacter]
  split
  · rename_i present
    apply Evolves.change
    apply World.Change.cast
    intro other member
    rcases List.mem_append.1 member with old | new
    · exact .inl old
    · cases List.mem_singleton.1 new
      right
      simp only [Bool.and_eq_true] at present
      exact present.1
  · exact .refl interpreter

omit own in
theorem hideCharacter_evolves (interpreter : Interpreter) (id : String) :
    Evolves edits interpreter (interpreter.hideCharacter id) :=
  .change (.cast _ fun _ member => .inl (List.mem_filter.1 member).1)

omit own in
theorem playCue_evolves (interpreter : Interpreter) (channel : StreamKind) (cue : AudioCue) :
    Evolves edits interpreter (interpreter.playCue channel cue) := by
  apply Evolves.change
  simp only [playCue, AudioRegistry.play]
  split <;> exact .played _ rfl

theorem Effect.evolves (effect : Effect interpreter after) :
    Evolves edits interpreter after := by
  cases effect with
  | nothing => exact .refl interpreter
  | settled => exact .refl interpreter
  | assigned expression => exact assign_evolves own interpreter expression
  | changedScene found => exact .change (.changedScene found)
  | shown id => exact showCharacter_evolves interpreter id
  | hidden id => exact hideCharacter_evolves interpreter id
  | played channel cue => exact playCue_evolves interpreter channel cue
  | stopped stream => exact .change (.stopped rfl)
  | silenced => exact .change (.silenced _ rfl)

omit own in
theorem say_evolves (interpreter : Interpreter) (character : Option String) (text : String) :
    Evolves edits interpreter (interpreter.say character text) :=
  .change (.logged _)

/-- A line may apply its assignment and join the log. -/
theorem showDialogue_evolves (interpreter : Interpreter) (line : Dialogue) :
    Evolves edits interpreter (interpreter.showDialogue line).2 := by
  cases restoring : interpreter.restoring with
  | true =>
      obtain ⟨screen, -, same⟩ := showDialogue_restoring restoring line
      rw [same]
      exact .refl interpreter
  | false =>
      have assigned := assignOptional_evolves own interpreter line.assignment
      obtain ⟨screen, entry, -, -, same⟩ := showDialogue_fresh restoring line
      rw [same, ← (assignOptional_backstage interpreter line.assignment).history]
      split
      · exact assigned.trans (.change (.logged entry))
      · exact assigned

/-- A card may apply its assignment, and it joins the log. -/
theorem showTitles_evolves (interpreter : Interpreter) (card : Titles) :
    Evolves edits interpreter (interpreter.showTitles card).2 := by
  apply (assignOptional_evolves own interpreter card.assignment).trans
  simp only [showTitles]
  cases card.durationMs? <;> exact .change (.logged _)

theorem Pause.evolves {status : Status} (pause : Pause interpreter step status after) :
    Evolves edits interpreter after := by
  cases pause with
  | @dialogue line kind => exact showDialogue_evolves own interpreter line
  | @titles card kind fresh => exact showTitles_evolves own interpreter card
  | input kind => exact .refl interpreter
  | choice kind => exact .refl interpreter

omit own in
theorem complete_world (interpreter : Interpreter) :
    interpreter.complete.after.world = interpreter.world := by
  simp only [complete]
  split <;> rfl

theorem round_evolves {dispatched next : Nat} (round : Round dispatched interpreter next after) :
    Evolves edits interpreter after := by
  cases round with
  | returned current exhausted returned => exact returnToCaller_evolves returned
  | passed current found below effect =>
      have evolved := effect.evolves own
      exact evolved
  | jumped current found below jumped => exact dispatch_jumped_evolves jumped

/-- A run changes the world by what its steps do. -/
theorem run_evolves (interpreter : Interpreter) : Evolves edits interpreter interpreter.run.after := by
  apply run_induction (fun _ reached => Evolves edits interpreter reached)
    fun outcome => Evolves edits interpreter outcome.after
  · intro dispatched reached next after evolves round
    exact evolves.trans (round_evolves own round)
  · intro dispatched reached outcome evolves ending
    apply evolves.trans
    cases ending with
    | completed =>
        simp only [Evolves]
        rw [complete_world]
        exact .refl
    | limited => exact .refl reached
    | paused current found below pause =>
        have evolved := pause.evolves own
        exact evolved
    | failed same =>
        rcases same with rfl | rfl | rfl
        · exact .refl _
        · exact .refl _
        · exact .refl reached
  · exact .refl interpreter

theorem Evolves.run {start : Interpreter} (evolves : Evolves edits interpreter start) :
    Evolves edits interpreter start.run.after :=
  evolves.trans (run_evolves own start)

/-! ## Operations -/

theorem stepForward_evolves (interpreter : Interpreter) :
    Evolves edits interpreter interpreter.stepForward.after :=
  run_evolves own { interpreter.clearDisplay with restoring := false, step := interpreter.step + 1 }

theorem redirect_evolves (interpreter : Interpreter) (target : String) :
    Evolves edits interpreter (interpreter.redirect target).after := by
  simp only [redirect]
  split
  · rename_i flow after jumped
    exact (jump_evolves jumped).trans (run_evolves own after)
  · rename_i cause after failed
    cases jump_error failed
    exact .refl interpreter

theorem runActions_evolves (actions : List ChoiceAction) (interpreter : Interpreter) :
    Evolves edits interpreter (runActions actions interpreter).after := by
  induction actions generalizing interpreter with
  | nil => exact stepForward_evolves own interpreter
  | cons action actions ih =>
      cases action with
      | «show» character =>
          exact (showCharacter_evolves interpreter character).trans (ih _)
      | hide character => exact (hideCharacter_evolves interpreter character).trans (ih _)
      | dialogue character text => exact say_evolves interpreter character text
      | goto target => exact redirect_evolves own interpreter target

theorem showPart_evolves (interpreter : Interpreter) (next : Nat) :
    Evolves edits interpreter (interpreter.showPart next).after := by
  unfold showPart
  split
  · split
    · exact stepForward_evolves own interpreter
    · rename_i part found
      apply (assignOptional_evolves own interpreter part.assignment).trans
      dsimp only
      split
      · exact .refl _
      · exact .change (.logged _)
  · exact stepForward_evolves own interpreter

theorem resume_evolves (interpreter : Interpreter) (entry : Continuation) :
    Evolves edits interpreter (interpreter.resume entry).after := by
  cases entry with
  | dialogueParts next => exact showPart_evolves own interpreter next
  | choiceActions remaining => exact runActions_evolves own remaining interpreter.clearScreen
  | interjection screen status => exact .refl interpreter

theorem advance_evolves (interpreter : Interpreter) :
    Evolves edits interpreter interpreter.advance.after := by
  simp only [advance]
  split
  · exact .refl interpreter
  · split
    · exact .refl interpreter
    · exact .refl interpreter
    · exact .refl interpreter
    · exact .refl interpreter
    · exact .refl interpreter
    · split
      · exact stepForward_evolves own interpreter
      · rename_i entry rest stack
        exact resume_evolves own { interpreter with continuations := rest } entry

theorem restart_evolves (interpreter : Interpreter) (id : Option String) :
    Evolves edits interpreter (interpreter.restart id).after := by
  simp only [restart]
  split
  · rename_i cause after failed
    cases fetchUnit_error failed
    exact .refl interpreter
  · rename_i story after fetched
    obtain ⟨units, known, rfl⟩ := fetchUnit_ok fetched
    apply Evolves.run own
    exact known.evolves

theorem goto_evolves (interpreter : Interpreter) (target : String) :
    Evolves edits interpreter (interpreter.goto target).after := by
  simp only [goto]
  split
  · exact .refl interpreter
  · exact redirect_evolves own { interpreter with continuations := [], restoring := false } target

theorem fireTimer_evolves (interpreter : Interpreter) (token : Nat) :
    Evolves edits interpreter (interpreter.fireTimer token).after := by
  simp only [fireTimer]
  split
  · exact .refl interpreter
  · split
    · exact .refl interpreter
    · split
      · exact .refl interpreter
      · exact advance_evolves own { interpreter with timer := none }

theorem submitInput_evolves (interpreter : Interpreter) (answer : String) :
    Evolves edits interpreter (interpreter.submitInput answer).after := by
  unfold submitInput
  split
  · exact .refl interpreter
  · dsimp only
    cases interpreter.screen.input.bind InputPrompt.path with
    | none => exact stepForward_evolves own _
    | some path =>
        apply Evolves.run own
        exact .change (.edited (own (.write path (.text answer))))

theorem select_evolves (interpreter : Interpreter) (index : Nat) :
    Evolves edits interpreter (interpreter.select index).after := by
  simp only [select]
  split
  · exact .refl interpreter
  · split
    · split
      · exact .refl interpreter
      · exact runActions_evolves own _ interpreter.clearScreen
    · exact .refl interpreter

theorem reset_evolves (interpreter : Interpreter) :
    Evolves edits interpreter interpreter.reset := by
  have left : World.Changes edits interpreter.world { interpreter.world with story := none } :=
    World.Changes.refl.snoc .left
  have uncast := (left.snoc .leftScene).snoc (.cast [] (by simp))
  have cleared := uncast.snoc (.edited (own (.setGlobal Value.emptyMap_ordered)))
  have silent := cleared.snoc (.silenced interpreter.audio.stopAll rfl)
  exact silent.snoc (.relogged [])

omit own in
theorem insertStreams_changes (streams : List AudioStream) (world : World) :
    World.Changes edits world
      { world with audio := streams.foldl AudioRegistry.insert world.audio } := by
  induction streams generalizing world with
  | nil => exact .refl
  | cons stream streams ih =>
      have played : World.Change edits world
          { world with audio := world.audio.insert stream } := .played stream rfl
      exact played.changes.trans (ih _)

omit own in
theorem restoredScene_changes (interpreter : Interpreter) (id : Option String) (world : World)
    (same : world.content = interpreter.content) :
    World.Changes edits world { world with scene := interpreter.restoredScene id } := by
  cases id with
  | none => exact World.Changes.refl.snoc .leftScene
  | some id =>
      simp only [restoredScene]
      rw [← same, Option.bind_some]
      cases found : world.content.scene id with
      | error cause => exact World.Changes.refl.snoc .leftScene
      | ok scene => exact World.Changes.refl.snoc (.changedScene found)

theorem resumeFrom_evolves (interpreter : Interpreter) (snapshot : Snapshot) :
    Evolves edits interpreter (interpreter.resumeFrom snapshot).after := by
  simp only [resumeFrom]
  split
  · rename_i cause after failed
    cases fetchUnit_error failed
    exact .refl interpreter
  · rename_i story after fetched
    obtain ⟨units, known, rfl⟩ := fetchUnit_ok fetched
    apply Evolves.run own
    have entered : World.Changes edits interpreter.world
        { interpreter.world with units, story := some story } := known.evolves
    have placed := entered.trans (restoredScene_changes interpreter snapshot.scene _ rfl)
    have cast := placed.snoc (.cast (snapshot.visible.filter fun id =>
      (interpreter.state.character? id).isSome)
      fun id member => .inr (List.mem_filter.1 member).2)
    have touched := cast.snoc (.edited (own .touch))
    have silent := touched.snoc (.silenced interpreter.audio.stopAll rfl)
    have playing := silent.trans
      (insertStreams_changes (snapshot.audio.filter AudioStream.looping) _)
    exact playing.snoc (.relogged _)

omit own in
theorem fetchUnit_evolves (interpreter : Interpreter) (id : String) :
    Evolves edits interpreter (interpreter.fetchUnit id).2 := by
  generalize fetched : interpreter.fetchUnit id = outcome
  obtain ⟨result, after⟩ := outcome
  cases result with
  | error cause =>
      cases fetchUnit_error fetched
      exact .refl interpreter
  | ok story =>
      obtain ⟨units, known, rfl⟩ := fetchUnit_ok fetched
      exact .change (.fetched known)

/-- Every operation that loads no characters changes the world by small changes. -/
theorem perform_evolves (interpreter : Interpreter) (operation : Operation)
    (within : operation.Within edits) :
    Evolves edits interpreter (operation.perform interpreter) := by
  cases operation with
  | loadUnit id => exact fetchUnit_evolves interpreter id
  | loadCharacters ids => cases within
  | start id => exact restart_evolves own interpreter (some id)
  | advance => exact advance_evolves own interpreter
  | goto target => exact goto_evolves own interpreter target
  | retry =>
      change Evolves edits interpreter interpreter.retry.after
      simp only [retry]
      split
      · exact run_evolves own interpreter
      · exact .refl interpreter
  | endStory =>
      change World.Changes edits interpreter.world interpreter.endStory.after.world
      simp only [endStory]
      rw [complete_world]
      exact .refl
  | restart id => exact restart_evolves own interpreter id
  | reset => exact reset_evolves own interpreter
  | fireTimer token => exact fireTimer_evolves own interpreter token
  | tick now =>
      change Evolves edits interpreter (interpreter.tick now).after
      simp only [tick]
      split
      · exact .refl interpreter
      · split
        · exact fireTimer_evolves own interpreter _
        · exact .refl interpreter
  | acknowledgeEffect =>
      change Evolves edits interpreter interpreter.acknowledgeEffect.after
      simp only [acknowledgeEffect]
      split
      · exact advance_evolves own { interpreter with effectPending := false }
      · exact .refl interpreter
  | submitInput answer => exact submitInput_evolves own interpreter answer
  | select index => exact select_evolves own interpreter index
  | inject character text => exact say_evolves interpreter character text
  | resumeFrom snapshot => exact resumeFrom_evolves own interpreter snapshot
  | pauseAudio => exact .change (.signalled rfl)
  | resumeAudio =>
      apply Evolves.change
      apply World.Change.signalled
      change interpreter.audio.resumeAll.streams = interpreter.audio.streams
      simp only [AudioRegistry.resumeAll]
      split <;> rfl
  | drainEvents => exact .refl interpreter
  | edit change => exact .change (.edited within)
  | pass now => exact .refl interpreter

end

end Interpreter

end VisualNovel
