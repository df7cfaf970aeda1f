import VisualNovel.Proofs.Interpreter.Position
import VisualNovel.Proofs.State.Contents

/-!
# The face of a story

A story goes on by its face: by everything but the units that happen to be loaded, the revision of
the state, the streams, the clock, the numbers and deadlines of timers, and the events. Two stories
with one face take the same rounds, and what they do to their streams is the same.
-/

namespace VisualNovel

/-- What a step does to the streams when it is performed. -/
def StepKind.tuned (audio : AudioRegistry) : StepKind → AudioRegistry
  | .play channel cue => (audio.play channel cue.file cue.looping cue.stream).1
  | .stopStream stream => audio.stop stream
  | .stopAllStreams => audio.stopAll
  | _ => audio

/-- A relation of streams that every step of a content keeps. -/
def Content.Tunes (content : Content) (heard : AudioRegistry → AudioRegistry → Prop) : Prop :=
  ∀ id story step first second, content.unit? id = some story → step ∈ story.steps →
    heard first second → heard (step.kind.tuned first) (step.kind.tuned second)

namespace StateTree

/-- A state without its revision. -/
def bare (state : StateTree) : StateTree :=
  { state with revision := 0 }

theorem bare_eq_iff {state other : StateTree} : other.bare = state.bare ↔ state.SameContents other := by
  obtain ⟨characters, global, revision⟩ := state
  obtain ⟨others, elsewhere, counter⟩ := other
  simp only [bare, SameContents]
  rw [StateTree.mk.injEq]
  simp only [and_true]

theorem SameContents.bare (state : StateTree) : SameContents state state.bare :=
  ⟨rfl, rfl⟩

@[simp] theorem bare_substitute (state : StateTree) (text : String) :
    state.bare.substitute text = state.substitute text :=
  substitute_contents text (SameContents.bare state)

@[simp] theorem bare_read? (state : StateTree) (path : String) :
    state.bare.read? path = state.read? path :=
  read?_revision state 0 path

end StateTree

namespace Interpreter

variable {content : Content} {interpreter first second after : Interpreter} {step : Step}

/-- A timer without number and deadline. -/
def faceTimer (timer : TitleTimer) : TitleTimer :=
  ⟨0, 0, timer.awaitsEffectEnd⟩

/-- What a story goes on by. -/
def face (interpreter : Interpreter) : Interpreter :=
  { interpreter with
    units := []
    state := interpreter.state.bare
    audio := .empty
    timer := interpreter.timer.map faceTimer
    nextToken := 0
    events := []
    clock := 0 }

theorem face_face (interpreter : Interpreter) : interpreter.face.face = interpreter.face := by
  simp only [face, Option.map_map]
  rfl

theorem Supplied.face (supplied : interpreter.Supplied content) :
    interpreter.face.Supplied content where
  source := supplied.source
  units := fun absent => by cases absent
  story := supplied.story

/-! ## Lines -/

theorem face_assign (interpreter : Interpreter) (expression : String) :
    (interpreter.face.assign expression).face = (interpreter.assign expression).face := by
  have same := StateTree.bare_eq_iff.2
    (StateTree.assigned_contents expression (StateTree.SameContents.bare interpreter.state))
  simp only [face, assign]
  rw [same, Option.map_map]
  rfl

theorem face_assignOptional (interpreter : Interpreter) (expression : Option String) :
    (interpreter.face.assignOptional expression).face =
      (interpreter.assignOptional expression).face := by
  cases expression with
  | none => exact face_face interpreter
  | some expression => exact face_assign interpreter expression

theorem face_showLine (interpreter : Interpreter) (character : Option String) (text : String) :
    interpreter.face.showLine character text = (interpreter.showLine character text).face := by
  simp only [face, showLine, StateTree.bare_substitute]
  rfl

theorem face_logLine (interpreter : Interpreter) (speaking : Bool) (text : String) :
    interpreter.face.logLine speaking text = (interpreter.logLine speaking text).face := rfl

theorem face_say (interpreter : Interpreter) (character : Option String) (text : String) :
    interpreter.face.say character text = (interpreter.say character text).face := by
  simp only [say]
  rw [face_showLine, face_logLine]
  simp only [face, StateTree.bare_substitute]

theorem face_appendPart (interpreter : Interpreter) (speaking : Bool) (part : DialoguePart) :
    interpreter.face.appendPart speaking part = (interpreter.appendPart speaking part).face := by
  simp only [face, appendPart, StateTree.bare_substitute]

theorem face_appendParts (interpreter : Interpreter) (speaking : Bool)
    (parts : List DialoguePart) :
    parts.foldl (fun shown part => shown.appendPart speaking part) interpreter.face =
      (parts.foldl (fun shown part => shown.appendPart speaking part) interpreter).face := by
  induction parts generalizing interpreter with
  | nil => rfl
  | cons part parts ih =>
      rw [List.foldl_cons, List.foldl_cons, face_appendPart]
      exact ih _

/-! ## Steps -/

/-- The face of what a step led to. -/
def faceDispatched (dispatched : Dispatched) : Dispatched :=
  (dispatched.1, dispatched.2.face)

/-- A line on screen, with what is left of it. -/
theorem face_leave (shown : Nat) (line : Dialogue)
    (same : first.face = second.face) :
    (if shown < line.parts.length then
        { first with continuations := .dialogueParts shown :: first.continuations }
      else first).face =
    (if shown < line.parts.length then
        { second with continuations := .dialogueParts shown :: second.continuations }
      else second).face := by
  split
  · exact congrArg (fun shape : Interpreter =>
      { shape with continuations := .dialogueParts shown :: shape.continuations }) same
  · exact same

theorem face_showDialogue (interpreter : Interpreter) (line : Dialogue) :
    faceDispatched (interpreter.face.showDialogue line) =
      faceDispatched (interpreter.showDialogue line) := by
  have assigned := face_assignOptional { interpreter with restoring := false, restoreParts := 0 }
    line.assignment
  have settled : { interpreter.face with restoring := false, restoreParts := 0 } =
      { interpreter with restoring := false, restoreParts := 0 }.face := rfl
  have restores : interpreter.face.restoring = interpreter.restoring := rfl
  have parts : interpreter.face.restoreParts = interpreter.restoreParts := rfl
  have shows : ∀ {one two : Interpreter}, one.face = two.face →
      (one.showLine line.character line.text).face =
        (two.showLine line.character line.text).face := by
    intro one two same
    rw [← face_showLine, same, face_showLine]
  simp only [showDialogue, restores, parts]
  rw [settled]
  generalize { interpreter with restoring := false, restoreParts := 0 } = fresh at assigned ⊢
  cases interpreter.restoring with
  | true =>
      simp only [↓reduceIte]
      split
      · exact congrArg (Prod.mk _) (shows (face_face fresh))
      · apply congrArg (Prod.mk _) (face_leave _ line _)
        rw [← face_appendParts, shows (face_face fresh), face_appendParts]
  | false =>
      simp only [Bool.false_eq_true, ↓reduceIte]
      split
      · apply congrArg (Prod.mk _)
        rw [← face_say, assigned, face_say]
      · apply congrArg (Prod.mk _) (face_leave _ line _)
        rw [← face_appendParts, shows assigned, face_appendParts]

theorem face_clearDisplay (interpreter : Interpreter) :
    interpreter.face.clearDisplay = interpreter.clearDisplay.face := rfl

/-- A title card on screen and in the log. -/
def inscribed (interpreter : Interpreter) (card : Titles) : Interpreter :=
  let text := interpreter.state.substitute card.text
  { interpreter with
    screen := { interpreter.screen with title := some ⟨text, card.effectStart, card.effect,
      card.effectEnd, card.typewriter, card.durationMs?⟩ }
    history := interpreter.history.push ((HistoryEntry.titles text).atStep interpreter.step) }

/-- A title card with its timer. -/
def titled (interpreter : Interpreter) (card : Titles) : Interpreter :=
  (card.durationMs?.map ((interpreter.inscribed card).armTimer card)).getD
    (interpreter.inscribed card)

theorem showTitles_eq (interpreter : Interpreter) (card : Titles) :
    interpreter.showTitles card = (.ok (.suspend (.titles card.durationMs?)),
      (interpreter.assignOptional card.assignment).clearDisplay.titled card) := rfl

theorem face_inscribed (interpreter : Interpreter) (card : Titles) :
    interpreter.face.inscribed card = (interpreter.inscribed card).face := by
  simp only [face, inscribed, StateTree.bare_substitute]

theorem face_titled (interpreter : Interpreter) (card : Titles) :
    (interpreter.face.titled card).face = (interpreter.titled card).face := by
  simp only [titled]
  rw [face_inscribed]
  cases card.durationMs? with
  | none => exact face_face (interpreter.inscribed card)
  | some durationMs => rfl

theorem face_showTitles (interpreter : Interpreter) (card : Titles) :
    faceDispatched (interpreter.face.showTitles card) =
      faceDispatched (interpreter.showTitles card) := by
  have assigned := face_assignOptional interpreter card.assignment
  rw [showTitles_eq, showTitles_eq]
  apply congrArg (Prod.mk _)
  rw [← face_titled, ← face_clearDisplay, assigned, face_clearDisplay, face_titled]

theorem face_showInput (interpreter : Interpreter) (path text : Option String) :
    interpreter.face.showInput path text = faceDispatched (interpreter.showInput path text) := by
  have reads : interpreter.face.state.read? = interpreter.state.read? :=
    funext fun path => StateTree.bare_read? _ path
  have substitutes : interpreter.face.state.substitute = interpreter.state.substitute :=
    funext fun text => StateTree.bare_substitute _ text
  simp only [showInput, reads, substitutes]
  rfl

theorem face_showChoice (interpreter : Interpreter) (offer : Choice) :
    interpreter.face.showChoice offer = faceDispatched (interpreter.showChoice offer) := by
  have substitutes : interpreter.face.state.substitute = interpreter.state.substitute :=
    funext fun text => StateTree.bare_substitute _ text
  simp only [showChoice, substitutes]
  rfl

/-! ## Units -/

/-- A unit is found or lost by the content alone, whether it was loaded before or not. -/
theorem Supplied.face_fetchUnit (supplied : interpreter.Supplied content) (id : String) :
    ∃ result shape after, interpreter.face.fetchUnit id = (result, shape) ∧
      interpreter.fetchUnit id = (result, after) ∧ shape.face = after.face := by
  have faced : interpreter.face.Supplied content := supplied.face
  cases delivered : content.storyUnit id with
  | error cause =>
      exact ⟨_, _, _, faced.fetchUnit_lost delivered, supplied.fetchUnit_lost delivered,
        face_face interpreter⟩
  | ok source =>
      have loaded : content.unit? id = some { source with id } :=
        Content.unit?_eq_some.2 ⟨source, delivered, rfl⟩
      obtain ⟨units, one, -⟩ := supplied.fetchUnit loaded
      obtain ⟨others, two, -⟩ := faced.fetchUnit loaded
      exact ⟨_, _, _, two, one, face_face interpreter⟩

theorem Supplied.face_jump (supplied : interpreter.Supplied content) (target : String) :
    faceDispatched (interpreter.face.jump target) = faceDispatched (interpreter.jump target) := by
  have cleared : interpreter.clearDisplay.Supplied content := { supplied with }
  obtain ⟨result, shape, after, one, two, same⟩ := cleared.face_fetchUnit target
  simp only [Interpreter.jump]
  rw [face_clearDisplay]
  generalize interpreter.clearDisplay = clear at one two ⊢
  have current : clear.face.story = clear.story := rfl
  rw [current, one, two]
  cases clear.story with
  | none => exact congrArg (Prod.mk _) (face_face clear)
  | some story =>
      cases label : story.labelIndex? target with
      | some step =>
          simp only [label]
          exact congrArg (Prod.mk _) (face_face { clear with story := some story, step })
      | none =>
          simp only [label]
          cases result with
          | error cause => exact congrArg (Prod.mk _) same
          | ok next =>
              exact congrArg (Prod.mk _) (congrArg (fun shape : Interpreter => { shape with
                story := some next
                step := 0
                callStack := ⟨story.id, shape.step + 1⟩ :: shape.callStack }) same)

theorem Supplied.face_returnToCaller (supplied : interpreter.Supplied content) :
    faceDispatched interpreter.face.returnToCaller =
      faceDispatched interpreter.returnToCaller := by
  have stack : interpreter.face.callStack = interpreter.callStack := rfl
  simp only [Interpreter.returnToCaller]
  rw [stack]
  cases interpreter.callStack with
  | nil => exact congrArg (Prod.mk _) (face_face interpreter)
  | cons frame callStack =>
      obtain ⟨result, shape, after, one, two, same⟩ := supplied.face_fetchUnit frame.unitId
      dsimp only
      rw [one, two]
      cases result with
      | error cause => exact congrArg (Prod.mk _) same
      | ok story =>
          exact congrArg (Prod.mk _) (congrArg (fun shape : Interpreter => { shape.clearDisplay with
            story := some story, step := frame.step, callStack }) same)

theorem face_unlessRestoring {change : Interpreter → Interpreter}
    (changes : (change interpreter.face).face = (change interpreter).face) :
    faceDispatched (interpreter.face.unlessRestoring change) =
      faceDispatched (interpreter.unlessRestoring change) := by
  have restores : interpreter.face.restoring = interpreter.restoring := rfl
  simp only [unlessRestoring, restores]
  split
  · exact congrArg (Prod.mk _) (face_face interpreter)
  · exact congrArg (Prod.mk _) changes

/-- A step does to the face of a story what it does to the story. -/
theorem Supplied.face_dispatch (supplied : interpreter.Supplied content) (step : Step) :
    faceDispatched (interpreter.face.dispatch step) =
      faceDispatched (interpreter.dispatch step) := by
  have restores : interpreter.face.restoring = interpreter.restoring := rfl
  have source : interpreter.face.content = interpreter.content := rfl
  cases kind : step.kind with
  | assign expression =>
      simp only [Interpreter.dispatch, kind]
      exact congrArg (Prod.mk _) (face_assign interpreter expression)
  | scene name =>
      simp only [Interpreter.dispatch, kind, restores, Interpreter.changeScene, source]
      cases name.or step.label with
      | none => exact congrArg (Prod.mk _) (face_face interpreter)
      | some id =>
          dsimp only
          split
          · exact congrArg (Prod.mk _) (face_face interpreter)
          · cases interpreter.content.scene id with
            | error cause => exact congrArg (Prod.mk _) (face_face interpreter)
            | ok scene =>
                exact congrArg (Prod.mk _) (face_face { interpreter with scene := some scene })
  | «show» character =>
      simp only [Interpreter.dispatch, kind]
      apply face_unlessRestoring
      have commutes : interpreter.face.showCharacter character =
          (interpreter.showCharacter character).face := by
        simp only [Interpreter.showCharacter]
        change (if (interpreter.state.character? character).isSome &&
          !interpreter.visible.contains character then _ else _) = _
        split <;> rfl
      rw [commutes, face_face]
  | hide character =>
      simp only [Interpreter.dispatch, kind]
      exact face_unlessRestoring (face_face (interpreter.hideCharacter character))
  | play channel cue =>
      simp only [Interpreter.dispatch, kind]
      exact face_unlessRestoring (face_face (interpreter.playCue channel cue))
  | stopStream stream =>
      simp only [Interpreter.dispatch, kind]
      exact face_unlessRestoring (face_face interpreter)
  | stopAllStreams =>
      simp only [Interpreter.dispatch, kind]
      exact face_unlessRestoring (face_face interpreter)
  | dialogue line =>
      simp only [Interpreter.dispatch, kind]
      exact face_showDialogue interpreter line
  | titles card =>
      simp only [Interpreter.dispatch, kind, restores]
      split
      · exact congrArg (Prod.mk _) (face_face { interpreter with restoring := false })
      · exact face_showTitles interpreter card
  | input path text =>
      simp only [Interpreter.dispatch, kind]
      rw [face_showInput]
      exact congrArg (Prod.mk _) (face_face _)
  | choice offer =>
      simp only [Interpreter.dispatch, kind]
      rw [face_showChoice]
      exact congrArg (Prod.mk _) (face_face _)
  | goto target =>
      simp only [Interpreter.dispatch, kind]
      exact supplied.face_jump target
  | back =>
      simp only [Interpreter.dispatch, kind]
      exact supplied.face_returnToCaller
  | finish =>
      simp only [Interpreter.dispatch, kind]
      have settled : Supplied content { interpreter with restoring := false } := { supplied with }
      exact settled.face_returnToCaller

/-! ## Streams -/

theorem fetchUnit_audio (interpreter : Interpreter) (id : String) :
    (interpreter.fetchUnit id).2.audio = interpreter.audio := by
  obtain ⟨units, same⟩ := fetchUnit_units interpreter id
  rw [same]

theorem jump_audio (interpreter : Interpreter) (target : String) :
    (interpreter.jump target).2.audio = interpreter.audio :=
  jump_field Interpreter.audio (fun _ _ _ _ => rfl) target

theorem returnToCaller_audio (interpreter : Interpreter) :
    interpreter.returnToCaller.2.audio = interpreter.audio :=
  returnToCaller_field Interpreter.audio fun _ _ _ _ => rfl

theorem assignOptional_audio (interpreter : Interpreter) (expression : Option String) :
    (interpreter.assignOptional expression).audio = interpreter.audio := by
  cases expression <;> rfl

/-- A step does to the streams what its kind says, unless it is passed after a restore. -/
theorem dispatch_audio (interpreter : Interpreter) (step : Step) :
    (interpreter.dispatch step).2.audio =
      if interpreter.restoring then interpreter.audio else step.kind.tuned interpreter.audio := by
  have plain : ∀ audio : AudioRegistry, (if interpreter.restoring then audio else audio) = audio :=
    fun audio => ite_self audio
  cases kind : step.kind with
  | assign expression =>
      simp only [dispatch, kind, StepKind.tuned, plain]
      rfl
  | scene name =>
      simp only [dispatch, kind, StepKind.tuned, plain, changeScene]
      split
      · split
        · rfl
        · split <;> rfl
      · rfl
  | «show» character =>
      simp only [dispatch, kind, StepKind.tuned, plain, unlessRestoring, showCharacter]
      split
      · rfl
      · split <;> rfl
  | hide character =>
      simp only [dispatch, kind, StepKind.tuned, plain, unlessRestoring]
      split <;> rfl
  | play | stopStream | stopAllStreams =>
      simp only [dispatch, kind, StepKind.tuned, unlessRestoring]
      split <;> rfl
  | dialogue line =>
      simp only [dispatch, kind, StepKind.tuned, plain]
      cases restoring : interpreter.restoring with
      | true =>
          obtain ⟨screen, -, same⟩ := showDialogue_restoring restoring line
          rw [same]
      | false =>
          obtain ⟨screen, entry, -, -, same⟩ := showDialogue_fresh restoring line
          rw [same]
          exact assignOptional_audio interpreter line.assignment
  | titles card =>
      simp only [dispatch, kind, StepKind.tuned, plain]
      split
      · rfl
      · rw [showTitles_eq]
        simp only [titled]
        cases card.durationMs? <;> exact assignOptional_audio interpreter card.assignment
  | input path text =>
      simp only [dispatch, kind, StepKind.tuned, plain]
      rfl
  | choice offer =>
      simp only [dispatch, kind, StepKind.tuned, plain]
      rfl
  | goto target =>
      simp only [dispatch, kind, StepKind.tuned, plain]
      exact jump_audio interpreter target
  | back =>
      simp only [dispatch, kind, StepKind.tuned, plain]
      exact returnToCaller_audio interpreter
  | finish =>
      simp only [dispatch, kind, StepKind.tuned, plain]
      exact returnToCaller_audio { interpreter with restoring := false }

/-! ## Runs with one face -/

/-- Two stories have one face, and their streams are in a relation. -/
structure Resembles (heard : AudioRegistry → AudioRegistry → Prop) (first second : Interpreter) :
    Prop where
  face : second.face = first.face
  heard : heard first.audio second.audio

/-- Two steps come to the same. -/
structure StepsAlike (heard : AudioRegistry → AudioRegistry → Prop) (first second : Dispatched) :
    Prop where
  faced : faceDispatched second = faceDispatched first
  heard : heard first.2.audio second.2.audio

/-- Two operations end with the same result and one face. -/
structure EndsAlike (heard : AudioRegistry → AudioRegistry → Prop) (first second : Outcome) :
    Prop where
  result : second.result = first.result
  after : Resembles heard first.after second.after

/-- Two rounds come to the same. -/
inductive TurnsAlike (heard : AudioRegistry → AudioRegistry → Prop) : Turn → Turn → Prop where
  | performed {first second : Interpreter} :
      Resembles heard first second → TurnsAlike heard (.performed first) (.performed second)
  | returned {first second : Interpreter} :
      Resembles heard first second → TurnsAlike heard (.returned first) (.returned second)
  | stopped {first second : Outcome} :
      EndsAlike heard first second → TurnsAlike heard (.stopped first) (.stopped second)
  | ended {first second : Outcome} :
      EndsAlike heard first second → TurnsAlike heard (.ended first) (.ended second)

section Alike

variable {heard : AudioRegistry → AudioRegistry → Prop}

/-- What the face alone tells is the same for both. -/
theorem Resembles.read {α : Type} (resembles : Resembles heard first second)
    (field : Interpreter → α)
    (faced : ∀ interpreter : Interpreter, field interpreter.face = field interpreter) :
    field second = field first := by
  rw [← faced second, resembles.face, faced]

/-- What changes the face alone keeps both alike. -/
theorem Resembles.change (resembles : Resembles heard first second)
    (change : Interpreter → Interpreter)
    (faced : ∀ interpreter : Interpreter, (change interpreter.face).face = (change interpreter).face)
    (audio : ∀ interpreter : Interpreter, (change interpreter).audio = interpreter.audio) :
    Resembles heard (change first) (change second) where
  face := by rw [← faced second, resembles.face, faced]
  heard := by
    rw [audio, audio]
    exact resembles.heard

theorem Resembles.wait (resembles : Resembles heard first second) (status : Status) :
    EndsAlike heard (first.wait status) (second.wait status) where
  result := rfl
  after := resembles.change (fun interpreter => { interpreter with status })
    (fun interpreter => face_face { interpreter with status }) fun _ => rfl

theorem Resembles.halt (resembles : Resembles heard first second) (error : StoryError) :
    EndsAlike heard (first.halt error) (second.halt error) where
  result := rfl
  after := (resembles.wait (.halted error.message)).after

theorem Resembles.haltAtStep (resembles : Resembles heard first second) (cause : ContentError) :
    EndsAlike heard (first.haltAtStep cause) (second.haltAtStep cause) := by
  have unit := resembles.read unitId? fun _ => rfl
  have step := resembles.read Interpreter.step fun _ => rfl
  simp only [Interpreter.haltAtStep]
  rw [unit, step]
  exact resembles.halt _

theorem face_complete (interpreter : Interpreter) :
    interpreter.face.complete.after.face = interpreter.complete.after.face := by
  have status : interpreter.face.status = interpreter.status := rfl
  simp only [complete, status]
  split <;> rfl

theorem Resembles.complete (resembles : Resembles heard first second) :
    EndsAlike heard first.complete second.complete where
  result := rfl
  after := resembles.change (fun interpreter => interpreter.complete.after) face_complete
    fun interpreter => congrArg World.audio (complete_world interpreter)

/-- A step of the content comes to the same for both. -/
theorem Resembles.dispatch (resembles : Resembles heard first second)
    (supplied : first.Supplied content) (twin : second.Supplied content)
    (tunes : content.Tunes heard) (current : first.currentStep? = some step) :
    StepsAlike heard (first.dispatch step) (second.dispatch step) where
  faced := by rw [← twin.face_dispatch, resembles.face, supplied.face_dispatch]
  heard := by
    have restores := resembles.read Interpreter.restoring fun _ => rfl
    rw [dispatch_audio, dispatch_audio, restores]
    split
    · exact resembles.heard
    · obtain ⟨story, running, found⟩ := currentStep?_eq_some current
      simp only [StoryUnit.step?] at found
      exact tunes _ _ _ _ _ (supplied.story running) (List.mem_of_getElem? found) resembles.heard

theorem Resembles.returnToCaller (resembles : Resembles heard first second)
    (supplied : first.Supplied content) (twin : second.Supplied content) :
    StepsAlike heard first.returnToCaller second.returnToCaller where
  faced := by rw [← twin.face_returnToCaller, resembles.face, supplied.face_returnToCaller]
  heard := by
    rw [returnToCaller_audio, returnToCaller_audio]
    exact resembles.heard

/-- Steps that come to the same have one result. -/
theorem StepsAlike.split {one two : Dispatched} (alike : StepsAlike heard one two) :
    ∃ result first second, one = (result, first) ∧ two = (result, second) ∧
      Resembles heard first second := by
  obtain ⟨result, first⟩ := one
  obtain ⟨other, second⟩ := two
  have same : other = result := congrArg Prod.fst alike.faced
  exact ⟨result, first, second, rfl, by rw [same], congrArg Prod.snd alike.faced, alike.heard⟩

theorem StepsAlike.afterStep {one two : Dispatched} (alike : StepsAlike heard one two) :
    TurnsAlike heard (afterStep one) (afterStep two) := by
  obtain ⟨result, first, second, rfl, rfl, resembles⟩ := alike.split
  cases result with
  | error cause => exact .stopped (resembles.haltAtStep cause)
  | ok flow =>
      cases flow with
      | next =>
          exact .performed (resembles.change
            (fun interpreter => { interpreter with step := interpreter.step + 1 })
            (fun interpreter => face_face { interpreter with step := interpreter.step + 1 })
            fun _ => rfl)
      | jumped => exact .performed resembles
      | suspend status => exact .stopped (resembles.wait status)
      | complete => exact .stopped resembles.complete

/-- A round comes to the same for both. -/
theorem Resembles.turn (resembles : Resembles heard first second)
    (supplied : first.Supplied content) (twin : second.Supplied content)
    (tunes : content.Tunes heard) (dispatched : Nat) :
    TurnsAlike heard (first.turn dispatched) (second.turn dispatched) := by
  have story := resembles.read Interpreter.story fun _ => rfl
  have step := resembles.read Interpreter.step fun _ => rfl
  have limits := resembles.read Interpreter.settings fun _ => rfl
  simp only [Interpreter.turn]
  rw [story, step, limits]
  cases running : first.story with
  | none => exact .ended resembles.complete
  | some story =>
      dsimp only
      cases found : story.step? first.step with
      | none =>
          dsimp only
          obtain ⟨result, one, two, returned, back, after⟩ :=
            (resembles.returnToCaller supplied twin).split
          rw [returned, back]
          cases result with
          | error cause => exact .ended (after.haltAtStep cause)
          | ok flow =>
              cases flow with
              | complete => exact .ended after.complete
              | next | jumped | suspend => exact .returned after
      | some step =>
          dsimp only
          split
          · exact .ended (resembles.halt _)
          · exact (resembles.dispatch supplied twin tunes
              ((currentStep?_eq running).trans found)).afterStep

theorem Resembles.loop (resembles : Resembles heard first second)
    (supplied : first.Supplied content) (twin : second.Supplied content)
    (tunes : content.Tunes heard) (fuel dispatched : Nat) :
    EndsAlike heard (loop fuel dispatched first) (loop fuel dispatched second) := by
  induction fuel generalizing first second dispatched with
  | zero =>
      have status := resembles.read Interpreter.status fun _ => rfl
      refine ⟨?_, resembles⟩
      simp only [Interpreter.loop, stay, succeed]
      rw [status]
  | succ fuel ih =>
      have alike := resembles.turn supplied twin tunes dispatched
      simp only [Interpreter.loop]
      cases one : first.turn dispatched with
      | performed after =>
          cases two : second.turn dispatched with
          | performed other =>
              rw [one, two] at alike
              cases alike with
              | performed goes =>
                  exact ih goes (supplied.round (turn_performed one)).1
                    (twin.round (turn_performed two)).1 (dispatched + 1)
          | _ => rw [one, two] at alike; cases alike
      | returned after =>
          cases two : second.turn dispatched with
          | returned other =>
              rw [one, two] at alike
              cases alike with
              | returned goes =>
                  exact ih goes (supplied.round (turn_returned one)).1
                    (twin.round (turn_returned two)).1 dispatched
          | _ => rw [one, two] at alike; cases alike
      | stopped outcome =>
          cases two : second.turn dispatched with
          | stopped other =>
              rw [one, two] at alike
              cases alike with
              | stopped ends => exact ends
          | _ => rw [one, two] at alike; cases alike
      | ended outcome =>
          cases two : second.turn dispatched with
          | ended other =>
              rw [one, two] at alike
              cases alike with
              | ended ends => exact ends
          | _ => rw [one, two] at alike; cases alike

/-- Runs of stories with one face end alike. -/
theorem Resembles.run (resembles : Resembles heard first second)
    (supplied : first.Supplied content) (twin : second.Supplied content)
    (tunes : content.Tunes heard) : EndsAlike heard first.run second.run := by
  have rounds := resembles.read rounds fun _ => rfl
  simp only [Interpreter.run]
  rw [rounds]
  exact resembles.loop supplied twin tunes first.rounds 0

end Alike

end Interpreter

end VisualNovel
