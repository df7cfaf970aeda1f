import VisualNovel.Proofs.Interpreter.Faces
import VisualNovel.Proofs.Interpreter.Hosting

/-!
# Retries that recover

A story that halted for want of content goes on when the content has appeared and the host retries.
The retry begins at the step that failed, with a new count of steps, at another time and with the
status of a halted story. None of these tells in what the run does, and so it ends as the run would
have ended that found the content in the first place.
-/

namespace VisualNovel

/-- The timer without its deadline. -/
def TitleTimer.undated (timer : TitleTimer) : TitleTimer :=
  { timer with deadline := 0 }

namespace Interpreter

variable {first second after : Interpreter} {step : Step} {dispatched counted : Nat}

/-- The interpreter without events and without the times it was at. -/
def undated (interpreter : Interpreter) : Interpreter :=
  { interpreter with timer := interpreter.timer.map TitleTimer.undated, events := [], clock := 0 }

/-- Two interpreters that differ in their status, events and times alone. -/
def Akin (first second : Interpreter) : Prop :=
  ∃ status events clock timer, second = { first with status, events, clock, timer } ∧
    timer.map TitleTimer.undated = first.timer.map TitleTimer.undated

/-- Two steps that come to the same, with interpreters that are akin. -/
def AkinResults {α : Type} (one other : α × Interpreter) : Prop :=
  ∃ result first second, one = (result, first) ∧ other = (result, second) ∧ Akin first second

/-- Two outcomes that differ in events and times alone. -/
structure AkinOutcomes (one other : Outcome) : Prop where
  result : other.result = one.result
  after : other.after.undated = one.after.undated

/-- Two rounds that come to the same but for events and times. -/
inductive AkinTurns : Turn → Turn → Prop where
  | performed {first second : Interpreter} :
      Akin first second → AkinTurns (.performed first) (.performed second)
  | returned {first second : Interpreter} :
      Akin first second → AkinTurns (.returned first) (.returned second)
  | stopped {one other : Outcome} :
      AkinOutcomes one other → AkinTurns (.stopped one) (.stopped other)
  | ended {one other : Outcome} :
      AkinOutcomes one other → AkinTurns (.ended one) (.ended other)

/-! ## Steps -/

theorem Akin.results {α : Type} (akin : Akin first second) (result : α) :
    AkinResults (result, first) (result, second) :=
  ⟨result, first, second, rfl, rfl, akin⟩

/-- What is told without the status, the events and the times is the same for both. -/
theorem Akin.read {α : Type} (akin : Akin first second) (field : Interpreter → α)
    (blind : ∀ (interpreter : Interpreter) status events clock timer,
      field { interpreter with status, events, clock, timer } = field interpreter) :
    field second = field first := by
  obtain ⟨status, events, clock, timer, rfl, -⟩ := akin
  exact blind first status events clock timer

/-- What touches neither the status nor the events nor the times keeps both akin. -/
theorem Akin.change (akin : Akin first second) (change : Interpreter → Interpreter)
    (blind : ∀ (interpreter : Interpreter) status events clock timer,
      change { interpreter with status, events, clock, timer } =
        { change interpreter with status, events, clock, timer })
    (timed : ∀ interpreter : Interpreter, (change interpreter).timer = interpreter.timer) :
    Akin (change first) (change second) := by
  obtain ⟨status, events, clock, timer, rfl, dated⟩ := akin
  refine ⟨status, events, clock, timer, blind first status events clock timer, ?_⟩
  rw [timed]
  exact dated

theorem Akin.clearDisplay (akin : Akin first second) :
    Akin first.clearDisplay second.clearDisplay := by
  obtain ⟨status, events, clock, timer, rfl, -⟩ := akin
  exact ⟨status, events, clock, none, rfl, rfl⟩

theorem Akin.settled (akin : Akin first second) :
    Akin { first with restoring := false } { second with restoring := false } :=
  akin.change (fun interpreter => { interpreter with restoring := false })
    (fun _ _ _ _ _ => rfl) fun _ => rfl

theorem Akin.assignOptional (akin : Akin first second) (expression : Option String) :
    Akin (first.assignOptional expression) (second.assignOptional expression) := by
  cases expression with
  | none => exact akin
  | some expression =>
      exact akin.change (fun interpreter => interpreter.assign expression) (fun _ _ _ _ _ => rfl)
        fun _ => rfl

theorem Akin.fetchUnit (akin : Akin first second) (id : String) :
    AkinResults (first.fetchUnit id) (second.fetchUnit id) := by
  obtain ⟨status, events, clock, timer, rfl, dated⟩ := akin
  simp only [Interpreter.fetchUnit]
  split
  · exact ⟨_, _, _, rfl, rfl, status, events, clock, timer, rfl, dated⟩
  · split
    · exact ⟨_, _, _, rfl, rfl, status, events, clock, timer, rfl, dated⟩
    · exact ⟨_, _, _, rfl, rfl, status, events, clock, timer, rfl, dated⟩

theorem Akin.jump (akin : Akin first second) (target : String) :
    AkinResults (first.jump target) (second.jump target) := by
  have cleared := akin.clearDisplay
  have story := cleared.read Interpreter.story fun _ _ _ _ _ => rfl
  simp only [Interpreter.jump]
  rw [story]
  cases first.clearDisplay.story with
  | none => exact cleared.results _
  | some story =>
      dsimp only
      cases story.labelIndex? target with
      | some position =>
          exact (cleared.change
            (fun interpreter => { interpreter with story := some story, step := position })
            (fun _ _ _ _ _ => rfl) fun _ => rfl).results _
      | none =>
          obtain ⟨result, one, other, fetched, again, kept⟩ := cleared.fetchUnit target
          dsimp only
          rw [fetched, again]
          cases result with
          | error cause => exact kept.results _
          | ok next =>
              exact (kept.change
                (fun interpreter => { interpreter with
                  story := some next, step := 0
                  callStack := ⟨story.id, interpreter.step + 1⟩ :: interpreter.callStack })
                (fun _ _ _ _ _ => rfl) fun _ => rfl).results _

theorem Akin.returnToCaller (akin : Akin first second) :
    AkinResults first.returnToCaller second.returnToCaller := by
  have stack := akin.read Interpreter.callStack fun _ _ _ _ _ => rfl
  simp only [Interpreter.returnToCaller]
  rw [stack]
  cases first.callStack with
  | nil => exact akin.results _
  | cons frame callStack =>
      obtain ⟨result, one, other, fetched, again, kept⟩ := akin.fetchUnit frame.unitId
      dsimp only
      rw [fetched, again]
      cases result with
      | error cause => exact kept.results _
      | ok story =>
          exact (kept.clearDisplay.change
            (fun interpreter => { interpreter with
              story := some story, step := frame.step, callStack })
            (fun _ _ _ _ _ => rfl) fun _ => rfl).results _

theorem Akin.changeScene (akin : Akin first second) (id : String) :
    AkinResults (first.changeScene id) (second.changeScene id) := by
  obtain ⟨status, events, clock, timer, rfl, dated⟩ := akin
  simp only [Interpreter.changeScene]
  split
  · exact ⟨_, _, _, rfl, rfl, status, events, clock, timer, rfl, dated⟩
  · exact ⟨_, _, _, rfl, rfl, status, events, clock, timer, rfl, dated⟩

theorem Akin.unlessRestoring {change : Interpreter → Interpreter} (akin : Akin first second)
    (changed : Akin (change first) (change second)) :
    AkinResults (first.unlessRestoring change) (second.unlessRestoring change) := by
  have restoring := akin.read Interpreter.restoring fun _ _ _ _ _ => rfl
  simp only [Interpreter.unlessRestoring]
  rw [restoring]
  split
  · exact akin.results _
  · exact changed.results _

theorem Akin.showCharacter (akin : Akin first second) (id : String) :
    Akin (first.showCharacter id) (second.showCharacter id) := by
  apply akin.change fun interpreter => interpreter.showCharacter id
  · intro interpreter status events clock timer
    simp only [Interpreter.showCharacter]
    split <;> rfl
  · intro interpreter
    simp only [Interpreter.showCharacter]
    split <;> rfl

theorem Akin.showLine (akin : Akin first second) (line : Dialogue) :
    Akin (first.showLine line.character line.text) (second.showLine line.character line.text) :=
  akin.change (fun interpreter => interpreter.showLine line.character line.text)
    (fun _ _ _ _ _ => rfl) fun _ => rfl

theorem Akin.appendParts (akin : Akin first second) (speaking : Bool)
    (parts : List DialoguePart) :
    Akin (parts.foldl (fun shown part => shown.appendPart speaking part) first)
      (parts.foldl (fun shown part => shown.appendPart speaking part) second) := by
  induction parts generalizing first second with
  | nil => exact akin
  | cons part parts ih =>
      exact ih (akin.change (fun interpreter => interpreter.appendPart speaking part)
        (fun _ _ _ _ _ => rfl) fun _ => rfl)

/-- A line on screen, with what is left of it. -/
theorem Akin.leave (akin : Akin first second) (shown : Nat) (line : Dialogue) :
    Akin
      (if shown < line.parts.length then
        { first with continuations := .dialogueParts shown :: first.continuations }
      else first)
      (if shown < line.parts.length then
        { second with continuations := .dialogueParts shown :: second.continuations }
      else second) := by
  split
  · exact akin.change
      (fun interpreter => { interpreter with
        continuations := .dialogueParts shown :: interpreter.continuations })
      (fun _ _ _ _ _ => rfl) fun _ => rfl
  · exact akin

theorem Akin.showDialogue (akin : Akin first second) (line : Dialogue) :
    AkinResults (first.showDialogue line) (second.showDialogue line) := by
  have restoring := akin.read Interpreter.restoring fun _ _ _ _ _ => rfl
  have shown := akin.read Interpreter.restoreParts fun _ _ _ _ _ => rfl
  have settled := akin.change
    (fun interpreter => { interpreter with restoring := false, restoreParts := 0 })
    (fun _ _ _ _ _ => rfl) fun _ => rfl
  have assigned := settled.assignOptional line.assignment
  simp only [Interpreter.showDialogue]
  rw [restoring, shown]
  cases first.restoring with
  | true =>
      have opened := settled.showLine line
      split
      · exact opened.results _
      · exact ((opened.appendParts line.character.isSome _).leave _ line).results _
  | false =>
      have opened := assigned.showLine line
      split
      · exact (assigned.change (fun interpreter => interpreter.say line.character line.text)
          (fun _ _ _ _ _ => rfl) fun _ => rfl).results _
      · exact ((opened.appendParts line.character.isSome _).leave _ line).results _

/-- A title card is shown at another time, and its timer has another deadline. -/
theorem Akin.showTitles (akin : Akin first second) (card : Titles) :
    AkinResults (first.showTitles card) (second.showTitles card) := by
  have inscribed := (akin.assignOptional card.assignment).clearDisplay.change
    (fun interpreter => interpreter.inscribed card) (fun _ _ _ _ _ => rfl) fun _ => rfl
  rw [showTitles_eq, showTitles_eq]
  refine ⟨_, _, _, rfl, rfl, ?_⟩
  simp only [titled]
  cases card.durationMs? with
  | none => exact inscribed
  | some durationMs =>
      obtain ⟨status, events, clock, timer, same, -⟩ := inscribed
      rw [same]
      exact ⟨status, events, clock, _, rfl, rfl⟩

/-- A step comes to the same but for events and times. -/
theorem Akin.dispatch (akin : Akin first second) (step : Step) :
    AkinResults (first.dispatch step) (second.dispatch step) := by
  have restoring := akin.read Interpreter.restoring fun _ _ _ _ _ => rfl
  cases kind : step.kind with
  | assign expression =>
      simp only [Interpreter.dispatch, kind]
      exact (akin.assignOptional (some expression)).results _
  | scene name =>
      simp only [Interpreter.dispatch, kind]
      rw [restoring]
      split
      · split
        · exact akin.results _
        · exact akin.changeScene _
      · exact akin.results _
  | «show» character =>
      simp only [Interpreter.dispatch, kind]
      exact akin.unlessRestoring (akin.showCharacter character)
  | hide character =>
      simp only [Interpreter.dispatch, kind]
      exact akin.unlessRestoring (akin.change
        (fun interpreter => interpreter.hideCharacter character)
        (fun _ _ _ _ _ => rfl) fun _ => rfl)
  | play channel cue =>
      simp only [Interpreter.dispatch, kind]
      exact akin.unlessRestoring (akin.change (fun interpreter => interpreter.playCue channel cue)
        (fun _ _ _ _ _ => rfl) fun _ => rfl)
  | stopStream stream =>
      simp only [Interpreter.dispatch, kind]
      exact akin.unlessRestoring (akin.change
        (fun playing => { playing with audio := playing.audio.stop stream })
        (fun _ _ _ _ _ => rfl) fun _ => rfl)
  | stopAllStreams =>
      simp only [Interpreter.dispatch, kind]
      exact akin.unlessRestoring (akin.change
        (fun playing => { playing with audio := playing.audio.stopAll })
        (fun _ _ _ _ _ => rfl) fun _ => rfl)
  | dialogue line =>
      simp only [Interpreter.dispatch, kind]
      exact akin.showDialogue line
  | titles card =>
      simp only [Interpreter.dispatch, kind]
      rw [restoring]
      split
      · exact akin.settled.results _
      · exact akin.showTitles card
  | input path text =>
      simp only [Interpreter.dispatch, kind]
      exact (akin.change (fun interpreter => (interpreter.showInput path text).2)
        (fun _ _ _ _ _ => rfl) fun _ => rfl).results _
  | choice offer =>
      simp only [Interpreter.dispatch, kind]
      exact (akin.change (fun interpreter => (interpreter.showChoice offer).2)
        (fun _ _ _ _ _ => rfl) fun _ => rfl).results _
  | goto target =>
      simp only [Interpreter.dispatch, kind]
      exact akin.jump target
  | back =>
      simp only [Interpreter.dispatch, kind]
      exact akin.returnToCaller
  | finish =>
      simp only [Interpreter.dispatch, kind]
      exact akin.settled.returnToCaller

/-! ## Rounds -/

/-- With one status both differ in events and times alone. -/
theorem Akin.undated (akin : Akin first second) (status : Status) :
    Interpreter.undated { second with status } = Interpreter.undated { first with status } := by
  obtain ⟨other, events, clock, timer, rfl, dated⟩ := akin
  simp only [Interpreter.undated]
  rw [dated]

theorem Akin.wait (akin : Akin first second) (status : Status) :
    AkinOutcomes (first.wait status) (second.wait status) :=
  ⟨rfl, akin.undated status⟩

theorem Akin.haltAtStep (akin : Akin first second) (cause : ContentError) :
    AkinOutcomes (first.haltAtStep cause) (second.haltAtStep cause) := by
  have unit := akin.read unitId? fun _ _ _ _ _ => rfl
  have step := akin.read Interpreter.step fun _ _ _ _ _ => rfl
  simp only [Interpreter.haltAtStep]
  rw [unit, step]
  exact ⟨rfl, akin.undated _⟩

/-- A story that is over adds no event, and otherwise ends like any other. -/
theorem Akin.complete (akin : Akin first second) : AkinOutcomes first.complete second.complete := by
  obtain ⟨status, events, clock, timer, rfl, -⟩ := akin
  constructor
  · rfl
  · simp only [Interpreter.complete]
    split <;> split <;> rfl

theorem AkinResults.afterStep {one other : Dispatched} (akin : AkinResults one other) :
    AkinTurns (afterStep one) (afterStep other) := by
  obtain ⟨result, first, second, rfl, rfl, akin⟩ := akin
  cases result with
  | error cause => exact .stopped (akin.haltAtStep cause)
  | ok flow =>
      cases flow with
      | next =>
          exact .performed (akin.change
            (fun interpreter => { interpreter with step := interpreter.step + 1 })
            (fun _ _ _ _ _ => rfl) fun _ => rfl)
      | jumped => exact .performed akin
      | suspend status => exact .stopped (akin.wait status)
      | complete => exact .stopped akin.complete

/-- A round below the limit comes to the same behind fewer steps. -/
theorem Akin.turn (akin : Akin first second) (fewer : counted ≤ dispatched)
    (room : first.currentStep?.isSome = true → dispatched < first.settings.maxAutoSteps) :
    AkinTurns (first.turn dispatched) (second.turn counted) := by
  have story := akin.read Interpreter.story fun _ _ _ _ _ => rfl
  have limits := akin.read Interpreter.settings fun _ _ _ _ _ => rfl
  cases running : first.story with
  | none =>
      simp only [Interpreter.turn]
      rw [story, running]
      exact .ended akin.complete
  | some unit =>
      cases found : unit.step? first.step with
      | none =>
          have position := akin.read Interpreter.step fun _ _ _ _ _ => rfl
          obtain ⟨result, one, other, returned, again, kept⟩ := akin.returnToCaller
          simp only [Interpreter.turn]
          rw [story, running]
          dsimp only
          rw [position, found, returned, again]
          cases result with
          | error cause => exact .ended (kept.haltAtStep cause)
          | ok flow =>
              cases flow with
              | complete => exact .ended kept.complete
              | next | jumped | suspend => exact .returned kept
      | some step =>
          have current := (currentStep?_eq running).trans found
          have again := (akin.read Interpreter.currentStep? fun _ _ _ _ _ => rfl).trans current
          have below := room (Option.isSome_iff_exists.2 ⟨step, current⟩)
          rw [turn_step current below, turn_step again (limits ▸ Nat.lt_of_le_of_lt fewer below)]
          exact (akin.dispatch step).afterStep

/-! ## Runs -/

/-- A run that does not fail at the limit of steps performs each of its steps below the limit. -/
theorem Reaches.room {start : Interpreter} {rounds : Nat}
    (reaches : Reaches start rounds dispatched first)
    (free : ∀ limit, start.run.result ≠ .error (.stepLimit limit))
    (stands : first.currentStep?.isSome = true) : dispatched < first.settings.maxAutoSteps := by
  obtain ⟨step, current⟩ := Option.isSome_iff_exists.1 stands
  apply Nat.lt_of_not_le
  intro reached
  have limited := turn_limited current reached
  apply free first.settings.maxAutoSteps
  rw [(Course.ended reaches limited).run_eq]
  rfl

/-- Two runs that come to the same in one round end alike, if the first one stays below the limit
and the second one has performed no more steps. -/
theorem AkinTurns.run_akin {start again : Interpreter} {rounds others fuel : Nat}
    (akin : AkinTurns (first.turn dispatched) (second.turn counted))
    (reaches : Reaches start rounds dispatched first)
    (follows : Reaches again others counted second) (fewer : counted ≤ dispatched)
    (free : ∀ limit, start.run.result ≠ .error (.stepLimit limit))
    (enough : roundsLeft dispatched first ≤ fuel) : AkinOutcomes start.run again.run := by
  -- The rounds that are left bound the induction, since a return performs no step.
  induction fuel generalizing first second dispatched counted rounds others with
  | zero =>
      simp only [roundsLeft] at enough
      omega
  | succ fuel ih =>
      generalize turned : first.turn dispatched = one at akin
      generalize followed : second.turn counted = other at akin
      cases akin with
      | performed akin =>
          have reaches := reaches.performed turned
          have left := (turn_performed turned).roundsLeft_lt
          have fewer := Nat.add_le_add_right fewer 1
          exact ih (akin.turn fewer (reaches.room free)) reaches (follows.performed followed) fewer
            (by omega)
      | returned akin =>
          have reaches := reaches.returned turned
          have left := (turn_returned turned).roundsLeft_lt
          exact ih (akin.turn fewer (reaches.room free)) reaches (follows.returned followed) fewer
            (by omega)
      | stopped akin =>
          rw [(Course.stopped reaches turned).run_eq, (Course.stopped follows followed).run_eq]
          exact akin
      | ended akin =>
          rw [(Course.ended reaches turned).run_eq, (Course.ended follows followed).run_eq]
          exact akin

/-! ## The round that failed -/

variable {reached again : Interpreter} {content later : Content} {request : Request}
variable {cause : ContentError}

/-- A failure keeps the place of the story and its world. -/
theorem disturbed_stands (interpreter : Interpreter) :
    interpreter.disturbed.position = interpreter.position ∧
      interpreter.disturbed.world = interpreter.world := by
  simp only [disturbed]
  split <;> exact ⟨rfl, rfl⟩

/-- A failure clears no more than the round itself would have cleared. -/
theorem disturbed_turn (interpreter : Interpreter)
    (room : interpreter.currentStep?.isSome = true →
      dispatched < interpreter.settings.maxAutoSteps) :
    interpreter.disturbed.turn dispatched = interpreter.turn dispatched := by
  rcases disturbed_cases interpreter with ⟨target, current, same⟩ | ⟨current, same⟩ | ⟨-, -, same⟩
  · obtain ⟨step, found, kind⟩ := Option.map_eq_some_iff.1 current
    have below := room (Option.isSome_iff_exists.2 ⟨step, found⟩)
    have stands : interpreter.clearDisplay.currentStep? = some step := found
    rw [same, turn_step found below, turn_step stands below]
    simp only [Interpreter.dispatch, kind]
    rfl
  · obtain ⟨step, found, kind⟩ := Option.map_eq_some_iff.1 current
    have below := room (Option.isSome_iff_exists.2 ⟨step, found⟩)
    have stands : Interpreter.currentStep? { interpreter with restoring := false } = some step :=
      found
    rw [same, turn_step found below, turn_step stands below]
    simp only [Interpreter.dispatch, kind]
  · rw [same]

/-- A failure does not depend on the content. -/
theorem disturbed_content (interpreter : Interpreter) (later : Content) :
    Interpreter.disturbed { interpreter with content := later } =
      { interpreter.disturbed with content := later } := by
  have kind : Interpreter.currentKind? { interpreter with content := later } =
    interpreter.currentKind? := rfl
  simp only [disturbed]
  rw [kind]
  split <;> rfl

/-- Only a step that changes the scene asks for one. -/
theorem request?_scene {id : String} (asks : first.request? = some (.scene id)) :
    ∃ step name, first.currentStep? = some step ∧ step.kind = .scene name ∧
      first.restoring = false ∧ name.or step.label = some id := by
  have caller : first.callerRequest? ≠ some (.scene id) := by
    intro asks
    obtain ⟨frame, -, same⟩ := Option.map_eq_some_iff.1 asks
    cases same
  obtain ⟨story, running⟩ := request?_running asks
  cases found : story.step? first.step with
  | none =>
      rw [request?_exhausted running found] at asks
      exact absurd asks caller
  | some step =>
      rw [request?_step running found] at asks
      cases kind : step.kind with
      | scene name =>
          simp only [kind] at asks
          split at asks
          · cases asks
          · rename_i fresh
            obtain ⟨name', named, same⟩ := Option.map_eq_some_iff.1 asks
            cases same
            exact ⟨step, name, (currentStep?_eq running).trans found, kind,
              Bool.eq_false_iff.2 fresh, named⟩
      | goto target =>
          simp only [kind] at asks
          split at asks <;> cases asks
      | back | finish =>
          simp only [kind] at asks
          exact absurd asks caller
      | _ =>
          simp only [kind] at asks
          cases asks

/-- A step that changes the scene overwrites it. -/
theorem turn_scene (interpreter : Interpreter) {name : Option String} {id : String} {scene : Scene}
    (current : interpreter.currentStep? = some step) (kind : step.kind = .scene name)
    (fresh : interpreter.restoring = false) (named : name.or step.label = some id)
    (delivered : interpreter.content.scene id = .ok scene)
    (below : dispatched < interpreter.settings.maxAutoSteps) :
    interpreter.turn dispatched =
      .performed { interpreter with scene := some scene, step := interpreter.step + 1 } := by
  rw [turn_step current below]
  simp only [Interpreter.dispatch, kind, named, fresh, Interpreter.changeScene, delivered]
  rfl

/-- With the content the round that failed comes to the same in a retry as in the run itself. -/
theorem Lacks.turn_content (lacks : reached.Lacks dispatched request cause) (later : Content)
    (status : Status) (now : Instant) :
    AkinTurns (Interpreter.turn dispatched { reached with content := later })
      ((reached.stranded status later now).turn 0) := by
  have akin : Akin (Interpreter.disturbed { reached with content := later })
      (reached.stranded status later now) := by
    rw [disturbed_content]
    exact ⟨status, reached.disturbed.events, now, reached.disturbed.timer, rfl, rfl⟩
  have room : (Interpreter.disturbed { reached with content := later }).currentStep?.isSome =
      true → dispatched <
        (Interpreter.disturbed { reached with content := later }).settings.maxAutoSteps := by
    rw [← akin.read Interpreter.currentStep? fun _ _ _ _ _ => rfl,
      ← akin.read Interpreter.settings fun _ _ _ _ _ => rfl, stranded_currentStep?,
      (stranded_standing reached status later now).2.2.2.1]
    exact lacks.room
  rw [← disturbed_turn { reached with content := later } lacks.room]
  exact akin.turn (Nat.zero_le _) room

/-- A scene that could not be loaded takes the place of any other when it can. -/
theorem Lacks.turn_staged (lacks : reached.Lacks dispatched request cause)
    (staged : later.Stages request) (scene : Option Scene) (status : Status) (now : Instant) :
    AkinTurns (Interpreter.turn dispatched { reached with content := later, scene })
      ((reached.stranded status later now).turn 0) := by
  obtain ⟨id, loaded, same, delivered⟩ := staged
  subst same
  obtain ⟨step, name, current, kind, fresh, named⟩ := request?_scene lacks.asks
  have below := lacks.room (Option.isSome_iff_exists.2 ⟨step, current⟩)
  have undisturbed : reached.disturbed = reached := by
    simp only [disturbed, currentKind?]
    rw [current, Option.map_some, kind]
  have first := turn_scene { reached with content := later, scene } current kind fresh
    named delivered below
  have second := turn_scene { reached with status, content := later, clock := now } current kind
    fresh named delivered (Nat.zero_lt_of_lt below)
  simp only [stranded]
  rw [undisturbed, first, second]
  exact .performed ⟨status, reached.events, now, reached.timer, rfl, rfl⟩

/-- A run that has the content from the start ends like a retry that has it at last. -/
theorem Lacks.run_akin {fresh : Interpreter} {rounds : Nat}
    (lacks : reached.Lacks dispatched request cause)
    (hosted : Hosted content later (later.Stages request) reached again)
    (follows : Reaches fresh rounds dispatched again)
    (free : ∀ limit, fresh.run.result ≠ .error (.stepLimit limit)) (status : Status)
    (now : Instant) :
    AkinOutcomes fresh.run (reached.stranded status later now).run := by
  obtain ⟨scene, same, staged⟩ := hosted.stage
  have akin : AkinTurns (again.turn dispatched) ((reached.stranded status later now).turn 0) := by
    subst same
    rcases staged with same | staged
    · subst same
      exact lacks.turn_content later status now
    · exact lacks.turn_staged staged scene status now
  exact akin.run_akin follows .start (Nat.zero_le _) free (Nat.le_refl _)

end Interpreter

open Interpreter

/-- A run that cannot load what a step asks for fails with the step and its unit. The story halts at
its place and in its world as they were in front of the step. A retry fails in the same way and
changes nothing while the content is missing, and with the content it ends like an operation that
had it from the start and stayed below the limit of steps. -/
theorem lost_load_retry (operation : Operation) (before start reached : Interpreter)
    (rounds dispatched : Nat) (request : Request) (cause : ContentError)
    (planned : operation.plan? before = some (.run start))
    (reaches : Reaches start rounds dispatched reached)
    (lacks : reached.Lacks dispatched request cause) :
    ∃ story error after, reached.story = some story ∧
      error = .step story.id reached.step cause ∧
      operation.outcome? before = some ⟨.error error, after⟩ ∧
      after.status = .halted error.message ∧ after.position = reached.position ∧
      after.world = reached.world ∧
      (∀ later now, later.Misses cause request →
        Interpreter.retry { after with content := later, clock := now } =
          ⟨.error error, { after with content := later, clock := now }⟩) ∧
      ∀ later now, before.content.GrowsAt request later →
        ∃ fresh, operation.outcome? { before with content := later } = some fresh ∧
          ((∀ limit, fresh.result ≠ .error (.stepLimit limit)) →
            AkinOutcomes fresh
              (Interpreter.retry { after with content := later, clock := now })) := by
  obtain ⟨story, running⟩ := request?_running lacks.asks
  obtain ⟨position, world⟩ := disturbed_stands reached
  have named : reached.unitId?.getD "" = story.id := by
    simp only [unitId?]
    rw [running]
    rfl
  let error : StoryError := .step story.id reached.step cause
  have ends := reaches.run_eq lacks.turn
  have failed : reached.disturbed.haltAtStep cause =
      ⟨.error error, { reached.disturbed with status := .halted error.message }⟩ := by
    have unit : reached.disturbed.unitId? = reached.unitId? :=
      congrArg (Option.map StoryUnit.id) (congrArg Position.story position)
    have step : reached.disturbed.step = reached.step := congrArg Position.step position
    rw [haltAtStep, unit, step, named]
    rfl
  refine ⟨story, error, { reached.disturbed with status := .halted error.message }, running, rfl,
    ?_, rfl, position, world, ?_, ?_⟩
  · rw [Operation.outcome?_plan, planned, ← failed, ← ends]
    rfl
  · intro later now still
    exact lacks.retry later now still (congrArg (StoryError.step · reached.step cause) named.symm)
  · intro later now growth
    have source : reached.content = before.content := reaches.content_eq planned
    have misses : before.content.Misses cause request := source ▸ lacks.misses.lost
    have hosted : Hosted before.content later (later.Stages request) before
        { before with content := later } := ⟨rfl, before.scene, rfl, .inl rfl⟩
    obtain ⟨again, replanned, begins⟩ :=
      hosted.plan? (growth.grows misses) (growth.scene_or misses) planned
    obtain ⟨arrived, follows, kept⟩ := begins.reaches (growth.grows misses) reaches
    refine ⟨again.run, ?_, ?_⟩
    · rw [Operation.outcome?_plan, replanned]
      rfl
    · intro free
      exact lacks.run_akin kept follows free (.halted error.message) now

/-- A library grows by a unit that it did not have. -/
theorem Library.growsAt_addUnit (library : Library) (story : StoryUnit) (request : Request)
    (absent : Dict.get? library.units story.id = none) :
    library.toContent.GrowsAt request (library.addUnit story).toContent := by
  constructor
  · intro id found delivered
    have other : story.id ≠ id := by
      intro same
      subst same
      simp only [toContent, load] at delivered
      rw [absent] at delivered
      cases delivered
    simp only [toContent, load, addUnit] at delivered ⊢
    rw [Dict.get?_insert, if_neg other]
    exact delivered
  · intro id asked
    rfl

/-- A library whose first unit calls a hall, from which a cellar is called. -/
def hallLibrary : Library :=
  (Library.empty.addUnit ⟨"start", [⟨none, .goto "hall"⟩]⟩).addUnit
    ⟨"hall", [⟨none, .goto "cellar"⟩]⟩

/-- The library with the cellar. -/
def cellarLibrary : Library :=
  hallLibrary.addUnit ⟨"cellar", [⟨none, .dialogue ⟨none, "It is damp.", none, []⟩⟩]⟩

/-- A story halts in the hall for want of a cellar, and is retried in vain, and then in it. -/
theorem lost_load_retry_cellar :
    ∃ error after, error = .step "hall" 0 (.notFound .storyUnit "cellar") ∧
      (Operation.start "start").outcome? (.new hallLibrary.toContent .standard) =
        some ⟨.error error, after⟩ ∧
      after.callStack = [⟨"start", 1⟩] ∧
      Interpreter.retry { after with content := hallLibrary.toContent, clock := 60 } =
        ⟨.error error, { after with content := hallLibrary.toContent, clock := 60 }⟩ ∧
      (Interpreter.retry { after with content := cellarLibrary.toContent, clock := 90 }).result =
        .ok .dialogue := by
  obtain ⟨story, error, after, running, same, failed, -, position, -, vain, found⟩ :=
    lost_load_retry (.start "start") (.new hallLibrary.toContent .standard) _ _ 1 1
      (.unit "cellar") (.notFound .storyUnit "cellar") rfl (.performed .start rfl)
      ⟨rfl, ⟨fun id same => by cases same; rfl, rfl⟩, fun _ => by decide⟩
  cases running
  obtain ⟨fresh, ran, recovers⟩ :=
    found cellarLibrary.toContent 90 (hallLibrary.growsAt_addUnit _ _ rfl)
  cases ran
  exact ⟨error, after, same, failed, congrArg Position.callStack position, vain _ 60 rfl,
    (recovers fun limit limited => by cases limited).result⟩

end VisualNovel
