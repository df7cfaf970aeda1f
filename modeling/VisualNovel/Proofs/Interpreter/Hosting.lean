import VisualNovel.Proofs.Interpreter.Plans
import VisualNovel.Proofs.Interpreter.Requests

/-!
# The same story with more content

A story finds again what it has found when its content grows, so an operation runs the story from
the same place and over the same rounds, up to the first load that failed. Only a story that is
resumed may differ: in its scene, when this is what the content has gained.
-/

namespace VisualNovel

variable {content later : Content} {request : Request} {cause : ContentError} {aside : Prop}

namespace Content

/-- What one content has the other has too. -/
structure Grows (content later : Content) : Prop where
  units : ∀ {id story}, content.storyUnit id = .ok story → later.storyUnit id = .ok story
  scenes : ∀ {id scene}, content.scene id = .ok scene → later.scene id = .ok scene

/-- A content has the units that it had and the same scenes, but for one that is asked for. -/
structure GrowsAt (content : Content) (request : Request) (later : Content) : Prop where
  units : ∀ {id story}, content.storyUnit id = .ok story → later.storyUnit id = .ok story
  scenes : ∀ id, request ≠ .scene id → later.scene id = content.scene id

/-- A scene that is missing cannot be lost. -/
theorem GrowsAt.grows (growth : content.GrowsAt request later)
    (misses : content.Misses cause request) : content.Grows later where
  units := growth.units
  scenes := by
    intro id scene delivered
    rw [growth.scenes id, delivered]
    rintro rfl
    rw [show content.scene id = .error cause from misses] at delivered
    cases delivered

/-- What is asked for is a scene that the content has. -/
def Stages (later : Content) (request : Request) : Prop :=
  ∃ id scene, request = .scene id ∧ later.scene id = .ok scene

/-- A scene is the same in both contents, unless it is the one that is asked for. -/
theorem GrowsAt.scene_or (growth : content.GrowsAt request later)
    (misses : content.Misses cause request) (id : String) :
    (later.scene id).toOption = (content.scene id).toOption ∨ later.Stages request := by
  by_cases asked : request = .scene id
  · subst asked
    have lost : content.scene id = .error cause := misses
    cases delivered : later.scene id with
    | error other =>
        left
        rw [lost]
        rfl
    | ok scene => exact .inr ⟨id, scene, rfl, delivered⟩
  · left
    rw [growth.scenes id asked]

end Content

namespace Interpreter

variable {first second before after start reached : Interpreter} {story : StoryUnit} {step : Step}
variable {target : String}

/-- Two interpreters that differ in their content alone, and maybe in the scene. -/
structure Hosted (content later : Content) (aside : Prop) (first second : Interpreter) : Prop where
  source : first.content = content
  stage : ∃ scene, second = { first with content := later, scene } ∧
    (scene = first.scene ∨ aside)

/-- What neither the content nor the scene tells is the same for both. -/
theorem Hosted.read {α : Type} (hosted : Hosted content later aside first second)
    (field : Interpreter → α)
    (blind : ∀ (interpreter : Interpreter) scene,
      field { interpreter with content := later, scene } = field interpreter) :
    field second = field first := by
  obtain ⟨scene, same, -⟩ := hosted.stage
  rw [same, blind]

/-- What touches neither the content nor the scene keeps both hosted. -/
theorem Hosted.change (hosted : Hosted content later aside first second)
    (change : Interpreter → Interpreter)
    (blind : ∀ (interpreter : Interpreter) scene,
      change { interpreter with content := later, scene } =
        { change interpreter with content := later, scene })
    (source : ∀ interpreter : Interpreter, (change interpreter).content = interpreter.content)
    (stage : ∀ interpreter : Interpreter, (change interpreter).scene = interpreter.scene) :
    Hosted content later aside (change first) (change second) := by
  obtain ⟨scene, same, staged⟩ := hosted.stage
  constructor
  · rw [source]
    exact hosted.source
  · refine ⟨scene, ?_, ?_⟩
    · rw [same, blind]
    · rw [stage]
      exact staged

theorem Hosted.clearDisplay (hosted : Hosted content later aside first second) :
    Hosted content later aside first.clearDisplay second.clearDisplay :=
  hosted.change Interpreter.clearDisplay (fun _ _ => rfl) (fun _ => rfl) fun _ => rfl

theorem Hosted.clearScreen (hosted : Hosted content later aside first second) :
    Hosted content later aside first.clearScreen second.clearScreen :=
  hosted.change Interpreter.clearScreen (fun _ _ => rfl) (fun _ => rfl) fun _ => rfl

theorem Hosted.forward (hosted : Hosted content later aside first second) :
    Hosted content later aside first.forward second.forward :=
  hosted.change Interpreter.forward (fun _ _ => rfl) (fun _ => rfl) fun _ => rfl

theorem Hosted.showCharacter (hosted : Hosted content later aside first second) (id : String) :
    Hosted content later aside (first.showCharacter id) (second.showCharacter id) := by
  apply hosted.change fun interpreter => interpreter.showCharacter id
  · intro interpreter scene
    simp only [Interpreter.showCharacter]
    split <;> rfl
  · intro interpreter
    exact (showCharacter_backstage interpreter id).content
  · intro interpreter
    simp only [Interpreter.showCharacter]
    split <;> rfl

theorem Hosted.hideCharacter (hosted : Hosted content later aside first second) (id : String) :
    Hosted content later aside (first.hideCharacter id) (second.hideCharacter id) :=
  hosted.change (fun interpreter => interpreter.hideCharacter id) (fun _ _ => rfl) (fun _ => rfl)
    fun _ => rfl

/-! ## Loads that succeed -/

/-- A unit that was found is found again. -/
theorem Hosted.fetchUnit {id : String} (hosted : Hosted content later aside first second)
    (grows : content.Grows later) (fetched : first.fetchUnit id = (.ok story, after)) :
    ∃ other, second.fetchUnit id = (.ok story, other) ∧
      Hosted content later aside after other := by
  have source := hosted.source
  obtain ⟨scene, rfl, staged⟩ := hosted.stage
  simp only [Interpreter.fetchUnit] at fetched ⊢
  cases known : Dict.get? first.units id with
  | some loaded =>
      rw [known] at fetched
      cases fetched
      exact ⟨_, rfl, source, scene, rfl, staged⟩
  | none =>
      rw [known] at fetched
      dsimp only at fetched ⊢
      split at fetched
      · cases fetched
      · rename_i delivered
        rw [source] at delivered
        rw [grows.units delivered]
        cases fetched
        exact ⟨_, rfl, source, scene, rfl, staged⟩

/-- A jump that succeeded succeeds again. -/
theorem Hosted.jump {flow : Flow} (hosted : Hosted content later aside first second)
    (grows : content.Grows later) (jumped : first.jump target = (.ok flow, after)) :
    ∃ other, second.jump target = (.ok flow, other) ∧ Hosted content later aside after other := by
  have cleared := hosted.clearDisplay
  have same : second.clearDisplay.story = first.clearDisplay.story :=
    cleared.read Interpreter.story fun _ _ => rfl
  simp only [Interpreter.jump] at jumped
  split at jumped
  · cases jumped
  · rename_i story current
    have running := same.trans current
    split at jumped
    · rename_i position label
      have again : second.jump target =
          (.ok .jumped, { second.clearDisplay with step := position }) := by
        simp only [Interpreter.jump]
        rw [running]
        dsimp only
        rw [label]
      cases jumped
      exact ⟨_, again, cleared.change (fun interpreter => { interpreter with step := position })
        (fun _ _ => rfl) (fun _ => rfl) fun _ => rfl⟩
    · rename_i label
      split at jumped
      · cases jumped
      · rename_i next called fetched
        obtain ⟨other, found, arrived⟩ := cleared.fetchUnit grows fetched
        have again : second.jump target = (.ok .jumped, { other with
            story := some next, step := 0
            callStack := ⟨story.id, other.step + 1⟩ :: other.callStack }) := by
          simp only [Interpreter.jump]
          rw [running]
          dsimp only
          rw [label]
          dsimp only
          rw [found]
        cases jumped
        exact ⟨_, again, arrived.change
          (fun interpreter => { interpreter with
            story := some next, step := 0
            callStack := ⟨story.id, interpreter.step + 1⟩ :: interpreter.callStack })
          (fun _ _ => rfl) (fun _ => rfl) fun _ => rfl⟩

/-- A return that succeeded succeeds again. -/
theorem Hosted.returnToCaller {flow : Flow} (hosted : Hosted content later aside first second)
    (grows : content.Grows later) (returned : first.returnToCaller = (.ok flow, after)) :
    ∃ other, second.returnToCaller = (.ok flow, other) ∧
      Hosted content later aside after other := by
  have same : second.callStack = first.callStack :=
    hosted.read Interpreter.callStack fun _ _ => rfl
  simp only [Interpreter.returnToCaller] at returned ⊢
  rw [same]
  split at returned
  · cases returned
    exact ⟨second, rfl, hosted⟩
  · rename_i frame callStack stack
    split at returned
    · cases returned
    · rename_i story found fetched
      obtain ⟨other, again, arrived⟩ := hosted.fetchUnit grows fetched
      rw [again]
      cases returned
      exact ⟨_, rfl, arrived.change
        (fun interpreter => { interpreter.clearDisplay with
          story := some story, step := frame.step, callStack })
        (fun _ _ => rfl) (fun _ => rfl) fun _ => rfl⟩

/-- A scene that was loaded is loaded again. It is the same for both. -/
theorem Hosted.changeScene {id : String} {flow : Flow}
    (hosted : Hosted content later aside first second) (grows : content.Grows later)
    (changed : first.changeScene id = (.ok flow, after)) :
    ∃ other, second.changeScene id = (.ok flow, other) ∧
      Hosted content later aside after other := by
  have source := hosted.source
  obtain ⟨staged, rfl, -⟩ := hosted.stage
  simp only [Interpreter.changeScene] at changed ⊢
  split at changed
  · rename_i scene delivered
    rw [source] at delivered
    rw [grows.scenes delivered]
    cases changed
    exact ⟨_, rfl, source, some scene, rfl, .inl rfl⟩
  · cases changed

/-! ## Rounds -/

/-- A change that is not made while steps are passed. -/
theorem Hosted.unlessRestoring {flow : Flow} {change : Interpreter → Interpreter}
    (hosted : Hosted content later aside first second)
    (changed : Hosted content later aside (change first) (change second))
    (passed : first.unlessRestoring change = (.ok flow, after)) :
    ∃ other, second.unlessRestoring change = (.ok flow, other) ∧
      Hosted content later aside after other := by
  have restoring : second.restoring = first.restoring :=
    hosted.read Interpreter.restoring fun _ _ => rfl
  simp only [Interpreter.unlessRestoring] at passed ⊢
  rw [restoring]
  cases passed
  refine ⟨_, rfl, ?_⟩
  split
  · exact hosted
  · exact changed

/-- A step that another one followed is followed by the same one again. -/
theorem Hosted.dispatch {flow : Flow} (hosted : Hosted content later aside first second)
    (grows : content.Grows later) (passed : first.dispatch step = (.ok flow, after))
    (goesOn : flow = .next ∨ flow = .jumped) :
    ∃ other, second.dispatch step = (.ok flow, other) ∧
      Hosted content later aside after other := by
  have restoring : second.restoring = first.restoring :=
    hosted.read Interpreter.restoring fun _ _ => rfl
  cases kind : step.kind with
  | assign expression =>
      simp only [Interpreter.dispatch, kind] at passed ⊢
      cases passed
      exact ⟨_, rfl, hosted.change (fun interpreter => interpreter.assign expression)
        (fun _ _ => rfl) (fun _ => rfl) fun _ => rfl⟩
  | scene name =>
      simp only [Interpreter.dispatch, kind] at passed ⊢
      split at passed
      · rw [restoring]
        split at passed
        · rename_i passes
          rw [if_pos passes]
          cases passed
          exact ⟨second, rfl, hosted⟩
        · rename_i fresh
          rw [if_neg fresh]
          exact hosted.changeScene grows passed
      · cases passed
        exact ⟨second, rfl, hosted⟩
  | «show» character =>
      simp only [Interpreter.dispatch, kind] at passed ⊢
      exact hosted.unlessRestoring (hosted.showCharacter character) passed
  | hide character =>
      simp only [Interpreter.dispatch, kind] at passed ⊢
      exact hosted.unlessRestoring (hosted.hideCharacter character) passed
  | play channel cue =>
      simp only [Interpreter.dispatch, kind] at passed ⊢
      exact hosted.unlessRestoring (hosted.change (fun playing => playing.playCue channel cue)
        (fun _ _ => rfl) (fun _ => rfl) fun _ => rfl) passed
  | stopStream stream =>
      simp only [Interpreter.dispatch, kind] at passed ⊢
      exact hosted.unlessRestoring (hosted.change
        (fun playing => { playing with audio := playing.audio.stop stream })
        (fun _ _ => rfl) (fun _ => rfl) fun _ => rfl) passed
  | stopAllStreams =>
      simp only [Interpreter.dispatch, kind] at passed ⊢
      exact hosted.unlessRestoring (hosted.change
        (fun playing => { playing with audio := playing.audio.stopAll })
        (fun _ _ => rfl) (fun _ => rfl) fun _ => rfl) passed
  | dialogue line =>
      simp only [Interpreter.dispatch, kind] at passed
      rw [showDialogue_eq] at passed
      cases passed
      rcases goesOn with flow | flow <;> cases flow
  | titles card =>
      simp only [Interpreter.dispatch, kind] at passed ⊢
      rw [restoring]
      split at passed
      · rename_i passes
        rw [if_pos passes]
        cases passed
        exact ⟨_, rfl, hosted.change (fun interpreter => { interpreter with restoring := false })
          (fun _ _ => rfl) (fun _ => rfl) fun _ => rfl⟩
      · cases passed
        rcases goesOn with flow | flow <;> cases flow
  | input | choice =>
      simp only [Interpreter.dispatch, kind] at passed
      cases passed
      rcases goesOn with flow | flow <;> cases flow
  | goto target =>
      simp only [Interpreter.dispatch, kind] at passed ⊢
      exact hosted.jump grows passed
  | back =>
      simp only [Interpreter.dispatch, kind] at passed ⊢
      exact hosted.returnToCaller grows passed
  | finish =>
      simp only [Interpreter.dispatch, kind] at passed ⊢
      have settled : Hosted content later aside { first with restoring := false }
          { second with restoring := false } :=
        hosted.change (fun interpreter => { interpreter with restoring := false })
          (fun _ _ => rfl) (fun _ => rfl) fun _ => rfl
      exact settled.returnToCaller grows passed

/-- A round that performs a step and is followed by another one. -/
theorem turn_performed_dispatch {dispatched : Nat}
    (turned : first.turn dispatched = .performed after) :
    ∃ step flow passed, first.currentStep? = some step ∧
      dispatched < first.settings.maxAutoSteps ∧ first.dispatch step = (.ok flow, passed) ∧
      (flow = .next ∨ flow = .jumped) ∧ afterStep (.ok flow, passed) = .performed after := by
  have round := turn_performed turned
  have below := round.below
  have stands : ∃ step, first.currentStep? = some step := by
    cases round with
    | passed running found => exact ⟨_, (currentStep?_eq running).trans found⟩
    | jumped running found => exact ⟨_, (currentStep?_eq running).trans found⟩
  obtain ⟨step, found⟩ := stands
  rw [turn_step found below] at turned
  generalize performed : first.dispatch step = dispatched at turned
  obtain ⟨result, passed⟩ := dispatched
  cases result with
  | error cause => cases turned
  | ok flow =>
      cases flow with
      | next => exact ⟨step, .next, passed, found, below, performed, .inl rfl, turned⟩
      | jumped => exact ⟨step, .jumped, passed, found, below, performed, .inr rfl, turned⟩
      | suspend | complete => cases turned

theorem Hosted.currentStep? (hosted : Hosted content later aside first second) :
    second.currentStep? = first.currentStep? :=
  hosted.read Interpreter.currentStep? fun _ _ => rfl

/-- A round that performed a step performs it again. -/
theorem Hosted.performed {dispatched : Nat} (hosted : Hosted content later aside first second)
    (grows : content.Grows later) (turned : first.turn dispatched = .performed after) :
    ∃ other, second.turn dispatched = .performed other ∧
      Hosted content later aside after other := by
  have limits : second.settings = first.settings :=
    hosted.read Interpreter.settings fun _ _ => rfl
  obtain ⟨step, flow, passed, found, below, performed, goesOn, followed⟩ :=
    turn_performed_dispatch turned
  obtain ⟨other, again, kept⟩ := hosted.dispatch grows performed goesOn
  have stands := hosted.currentStep?.trans found
  rw [turn_step stands (limits ▸ below), again]
  rcases goesOn with rfl | rfl
  · cases followed
    exact ⟨_, rfl, kept.change
      (fun interpreter => { interpreter with step := interpreter.step + 1 })
      (fun _ _ => rfl) (fun _ => rfl) fun _ => rfl⟩
  · cases followed
    exact ⟨other, rfl, kept⟩

/-- A round that returned to the caller returns to it again. -/
theorem Hosted.returned {dispatched : Nat} (hosted : Hosted content later aside first second)
    (grows : content.Grows later) (turned : first.turn dispatched = .returned after) :
    ∃ other, second.turn dispatched = .returned other ∧
      Hosted content later aside after other := by
  have story : second.story = first.story := hosted.read Interpreter.story fun _ _ => rfl
  have position : second.step = first.step := hosted.read Interpreter.step fun _ _ => rfl
  have round := turn_returned turned
  cases round with
  | returned running exhausted returned =>
      obtain ⟨other, again, kept⟩ := hosted.returnToCaller grows returned
      refine ⟨other, ?_, kept⟩
      have current := story.trans running
      rw [← position] at exhausted
      simp only [Interpreter.turn]
      rw [current]
      dsimp only
      rw [exhausted]
      dsimp only
      rw [again]

/-- A run comes by the same places with more content. -/
theorem Hosted.reaches {other : Interpreter} {rounds dispatched : Nat}
    (hosted : Hosted content later aside start other) (grows : content.Grows later)
    (reaches : Reaches start rounds dispatched reached) :
    ∃ again, Reaches other rounds dispatched again ∧
      Hosted content later aside reached again := by
  induction reaches with
  | start => exact ⟨other, .start, hosted⟩
  | performed reaches turned ih =>
      obtain ⟨again, reaches', kept⟩ := ih
      obtain ⟨after, turned', kept⟩ := kept.performed grows turned
      exact ⟨after, reaches'.performed turned', kept⟩
  | returned reaches turned ih =>
      obtain ⟨again, reaches', kept⟩ := ih
      obtain ⟨after, turned', kept⟩ := kept.returned grows turned
      exact ⟨after, reaches'.returned turned', kept⟩

/-! ## Operations -/

/-- A plan that runs the story is a plan that runs it from the same place. -/
def Hosts (content later : Content) (aside : Prop) (one other : Plan) : Prop :=
  ∀ start, one = .run start →
    ∃ again, other = .run again ∧ Hosted content later aside start again

theorem Hosts.run (hosted : Hosted content later aside first second) :
    Hosts content later aside (.run first) (.run second) := by
  intro start same
  cases same
  exact ⟨second, rfl, hosted⟩

/-- An operation that does not run the story runs it in no content. -/
theorem Hosts.settle {status : Status} {after : Interpreter} {other : Plan} :
    Hosts content later aside (.settle status after) other := by
  intro start same
  cases same

theorem Hosts.refuse {error : StoryError} {after : Interpreter} {other : Plan} :
    Hosts content later aside (.refuse error after) other := by
  intro start same
  cases same

theorem Hosted.redirectPlan (hosted : Hosted content later aside first second)
    (grows : content.Grows later) (target : String) :
    Hosts content later aside (first.redirectPlan target) (second.redirectPlan target) := by
  intro start planned
  simp only [Interpreter.redirectPlan] at planned ⊢
  split at planned
  · rename_i jumped
    cases planned
    obtain ⟨other, again, kept⟩ := hosted.jump grows jumped
    rw [again]
    exact ⟨other, rfl, kept⟩
  · cases planned

theorem Hosted.actionsPlan (actions : List ChoiceAction)
    (hosted : Hosted content later aside first second) (grows : content.Grows later) :
    Hosts content later aside (actionsPlan actions first) (actionsPlan actions second) := by
  induction actions generalizing first second with
  | nil => exact .run hosted.forward
  | cons action actions ih =>
      cases action with
      | «show» character => exact ih (hosted.showCharacter character)
      | hide character => exact ih (hosted.hideCharacter character)
      | dialogue character text => exact .settle
      | goto target => exact hosted.redirectPlan grows target

theorem Hosted.currentKind? (hosted : Hosted content later aside first second) :
    second.currentKind? = first.currentKind? :=
  congrArg (Option.map Step.kind) hosted.currentStep?

theorem Hosted.partPlan (hosted : Hosted content later aside first second) (next : Nat) :
    Hosts content later aside (first.partPlan next) (second.partPlan next) := by
  simp only [Interpreter.partPlan]
  rw [hosted.currentKind?]
  split
  · split
    · exact .settle
    · exact .run hosted.forward
  · exact .run hosted.forward

theorem Hosted.resumePlan (hosted : Hosted content later aside first second)
    (grows : content.Grows later) (entry : Continuation) :
    Hosts content later aside (first.resumePlan entry) (second.resumePlan entry) := by
  cases entry with
  | dialogueParts next => exact hosted.partPlan next
  | choiceActions remaining => exact hosted.clearScreen.actionsPlan remaining grows
  | interjection screen status => exact .settle

theorem Hosted.leftPlan (hosted : Hosted content later aside first second)
    (grows : content.Grows later) (left : List Continuation) :
    Hosts content later aside (first.leftPlan left) (second.leftPlan left) := by
  cases left with
  | nil => exact .run hosted.forward
  | cons entry rest =>
      have popped := hosted.change (fun interpreter => { interpreter with continuations := rest })
        (fun _ _ => rfl) (fun _ => rfl) fun _ => rfl
      exact popped.resumePlan grows entry

theorem Hosted.advancePlan (hosted : Hosted content later aside first second)
    (grows : content.Grows later) :
    Hosts content later aside first.advancePlan second.advancePlan := by
  have left : second.continuations = first.continuations :=
    hosted.read Interpreter.continuations fun _ _ => rfl
  have waiting : second.status = first.status := hosted.read Interpreter.status fun _ _ => rfl
  simp only [Interpreter.advancePlan]
  rw [left, waiting]
  split
  · exact .settle
  · split
    · exact .refuse
    · exact hosted.leftPlan grows first.continuations
    · exact hosted.leftPlan grows first.continuations
    · exact .settle

theorem Hosted.restartPlan (hosted : Hosted content later aside first second)
    (grows : content.Grows later) (id : Option String) :
    Hosts content later aside (first.restartPlan id) (second.restartPlan id) := by
  have unit : second.unitId? = first.unitId? := hosted.read Interpreter.unitId? fun _ _ => rfl
  intro start planned
  simp only [Interpreter.restartPlan] at planned ⊢
  rw [unit]
  split at planned
  · cases planned
  · rename_i story after fetched
    obtain ⟨other, again, kept⟩ := hosted.fetchUnit grows fetched
    rw [again]
    cases planned
    exact ⟨_, rfl, kept.change
      (fun interpreter => { interpreter.clearDisplay with
        callStack := [], continuations := [], restoring := false, story := some story, step := 0 })
      (fun _ _ => rfl) (fun _ => rfl) fun _ => rfl⟩

theorem Hosted.gotoPlan (hosted : Hosted content later aside first second)
    (grows : content.Grows later) (target : String) :
    Hosts content later aside (first.gotoPlan target) (second.gotoPlan target) := by
  have story : second.story = first.story := hosted.read Interpreter.story fun _ _ => rfl
  have settled := hosted.change
    (fun interpreter => { interpreter with continuations := [], restoring := false })
    (fun _ _ => rfl) (fun _ => rfl) fun _ => rfl
  intro start planned
  simp only [Interpreter.gotoPlan] at planned ⊢
  split at planned
  · cases planned
  · rename_i running
    rw [if_neg (story ▸ running)]
    exact settled.redirectPlan grows target start planned

theorem Hosted.retryPlan (hosted : Hosted content later aside first second) :
    Hosts content later aside first.retryPlan second.retryPlan := by
  have waiting : second.status = first.status := hosted.read Interpreter.status fun _ _ => rfl
  simp only [Interpreter.retryPlan]
  rw [waiting]
  split
  · exact .run hosted
  · exact .settle

theorem Hosted.firePlan (hosted : Hosted content later aside first second)
    (grows : content.Grows later) (token : Nat) :
    Hosts content later aside (first.firePlan token) (second.firePlan token) := by
  have timer : second.timer = first.timer := hosted.read Interpreter.timer fun _ _ => rfl
  have top : second.isInterrupted = first.isInterrupted :=
    hosted.read Interpreter.isInterrupted fun _ _ => rfl
  have disarmed := hosted.change (fun interpreter => { interpreter with timer := none })
    (fun _ _ => rfl) (fun _ => rfl) fun _ => rfl
  simp only [Interpreter.firePlan]
  rw [timer, top]
  split
  · exact .settle
  · split
    · exact .settle
    · split
      · exact .settle
      · exact disarmed.advancePlan grows

theorem Hosted.tickPlan (hosted : Hosted content later aside first second)
    (grows : content.Grows later) (now : Instant) :
    Hosts content later aside (first.tickPlan now) (second.tickPlan now) := by
  have timer : second.timer = first.timer := hosted.read Interpreter.timer fun _ _ => rfl
  simp only [Interpreter.tickPlan]
  rw [timer]
  split
  · exact .settle
  · split
    · exact hosted.firePlan grows _
    · exact .settle

theorem Hosted.acknowledgePlan (hosted : Hosted content later aside first second)
    (grows : content.Grows later) :
    Hosts content later aside first.acknowledgePlan second.acknowledgePlan := by
  have awaited : second.effectPending = first.effectPending :=
    hosted.read Interpreter.effectPending fun _ _ => rfl
  have acknowledged := hosted.change
    (fun interpreter => { interpreter with effectPending := false })
    (fun _ _ => rfl) (fun _ => rfl) fun _ => rfl
  simp only [Interpreter.acknowledgePlan]
  rw [awaited]
  split
  · exact acknowledged.advancePlan grows
  · exact .settle

theorem Hosted.submitPlan (hosted : Hosted content later aside first second) (answer : String) :
    Hosts content later aside (first.submitPlan answer) (second.submitPlan answer) := by
  have waiting : second.status = first.status := hosted.read Interpreter.status fun _ _ => rfl
  simp only [Interpreter.submitPlan]
  rw [waiting]
  split
  · exact .refuse
  · exact .run (hosted.change (fun interpreter => (interpreter.answered answer).forward)
      (fun _ _ => rfl) (fun _ => rfl) fun _ => rfl)

theorem Hosted.selectPlan (hosted : Hosted content later aside first second)
    (grows : content.Grows later) (index : Nat) :
    Hosts content later aside (first.selectPlan index) (second.selectPlan index) := by
  have waiting : second.status = first.status := hosted.read Interpreter.status fun _ _ => rfl
  simp only [Interpreter.selectPlan]
  rw [waiting, hosted.currentKind?]
  split
  · exact .refuse
  · split
    · split
      · exact .refuse
      · exact hosted.clearScreen.actionsPlan _ grows
    · exact .refuse

/-- A snapshot is resumed from the same place. Its scene may have come with the content. -/
theorem Hosted.resumptionPlan (hosted : Hosted content later aside first second)
    (grows : content.Grows later)
    (stage : ∀ id, (later.scene id).toOption = (content.scene id).toOption ∨ aside)
    (snapshot : Snapshot) :
    Hosts content later aside (first.resumptionPlan snapshot)
      (second.resumptionPlan snapshot) := by
  intro start planned
  simp only [Interpreter.resumptionPlan] at planned ⊢
  split at planned
  · cases planned
  · rename_i story after fetched
    obtain ⟨other, again, kept⟩ := hosted.fetchUnit grows fetched
    rw [again]
    cases planned
    have source := kept.source
    obtain ⟨scene, rfl, -⟩ := kept.stage
    refine ⟨_, rfl, source, snapshot.scene.bind fun id => (later.scene id).toOption, rfl, ?_⟩
    change (snapshot.scene.bind fun id => (later.scene id).toOption) =
      (snapshot.scene.bind fun id => (after.content.scene id).toOption) ∨ aside
    rw [source]
    cases snapshot.scene with
    | none => exact .inl rfl
    | some id => exact stage id

/-- A plan that runs the story becomes one that runs it from the same place. -/
theorem Hosts.planned {plan other : Plan} (hosts : Hosts content later aside plan other)
    (planned : some plan = some (.run start)) :
    ∃ again, some other = some (.run again) ∧ Hosted content later aside start again := by
  obtain ⟨again, same, hosted⟩ := hosts start (Option.some.inj planned)
  exact ⟨again, congrArg some same, hosted⟩

/-- An operation that runs the story runs it from the same place with more content. -/
theorem Hosted.plan? {operation : Operation} (hosted : Hosted content later aside first second)
    (grows : content.Grows later)
    (stage : ∀ id, (later.scene id).toOption = (content.scene id).toOption ∨ aside)
    (planned : operation.plan? first = some (.run start)) :
    ∃ again, operation.plan? second = some (.run again) ∧
      Hosted content later aside start again := by
  cases operation with
  | start id => exact (hosted.restartPlan grows (some id)).planned planned
  | advance => exact (hosted.advancePlan grows).planned planned
  | goto target => exact (hosted.gotoPlan grows target).planned planned
  | retry => exact hosted.retryPlan.planned planned
  | restart id => exact (hosted.restartPlan grows id).planned planned
  | fireTimer token => exact (hosted.firePlan grows token).planned planned
  | tick now => exact (hosted.tickPlan grows now).planned planned
  | acknowledgeEffect => exact (hosted.acknowledgePlan grows).planned planned
  | submitInput answer => exact (hosted.submitPlan answer).planned planned
  | select index => exact (hosted.selectPlan grows index).planned planned
  | resumeFrom snapshot => exact (hosted.resumptionPlan grows stage snapshot).planned planned
  | _ => cases planned

/-- Operations and runs keep the content. -/
theorem Reaches.content_eq {operation : Operation} {rounds dispatched : Nat}
    (planned : operation.plan? before = some (.run start))
    (reaches : Reaches start rounds dispatched reached) : reached.content = before.content := by
  have grows : before.content.Grows before.content := ⟨id, id⟩
  have hosted : Hosted before.content before.content False before before :=
    ⟨rfl, before.scene, rfl, .inl rfl⟩
  obtain ⟨other, -, begins⟩ := hosted.plan? grows (fun _ => .inl rfl) planned
  obtain ⟨again, -, arrived⟩ := begins.reaches grows reaches
  exact arrived.source

end Interpreter

end VisualNovel
