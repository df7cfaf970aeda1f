import VisualNovel.Proofs.Audio.Pausing
import VisualNovel.Proofs.Interpreter.Faces
import VisualNovel.Proofs.Interpreter.Plans
import VisualNovel.Proofs.Interpreter.Termination
import VisualNovel.Proofs.Saves.Restoring

/-!
# Pauses of a story

A host that pauses the audio of a story is told so, and is told of a resume when the registry takes
a pause to be in effect. Only three things end this pause without telling the host: a step that stops
every stream, a reset, and a load. Behind them the host is left in silence.
-/

namespace VisualNovel

/-- Whether an event tells the host to pause all audio or to go on with it. -/
def StoryEvent.isAudio : StoryEvent → Bool
  | .audioPaused => true
  | .audioResumed => true
  | _ => false

namespace Interpreter

variable {before after start reached interpreter : Interpreter} {rounds steps : Nat}

/-- The waiting events on audio. -/
def audioEvents (interpreter : Interpreter) : List StoryEvent :=
  interpreter.events.filter StoryEvent.isAudio

/-- The host is told nothing about audio. -/
structure Quiet (before after : Interpreter) : Prop where
  signals : after.audio.signals = before.audio.signals
  audioEvents : after.audioEvents = before.audioEvents

theorem Quiet.trans {between : Interpreter} (first : Quiet before between)
    (second : Quiet between after) : Quiet before after where
  signals := second.signals.trans first.signals
  audioEvents := second.audioEvents.trans first.audioEvents

/-- The audio is left as it is. -/
structure Untouched (before after : Interpreter) : Prop where
  audio : after.audio = before.audio
  audioEvents : after.audioEvents = before.audioEvents

theorem Untouched.trans {between : Interpreter} (first : Untouched before between)
    (second : Untouched between after) : Untouched before after where
  audio := second.audio.trans first.audio
  audioEvents := second.audioEvents.trans first.audioEvents

theorem Untouched.quiet (untouched : Untouched before after) : Quiet before after where
  signals := congrArg AudioRegistry.signals untouched.audio
  audioEvents := untouched.audioEvents

/-! ## Steps -/

theorem emit_audioEvents {event : StoryEvent} (other : event.isAudio = false) :
    (interpreter.emit event).audioEvents = interpreter.audioEvents := by
  simp [audioEvents, emit, other]

theorem complete_untouched (interpreter : Interpreter) :
    Untouched interpreter interpreter.complete.after := by
  simp only [complete]
  split
  · exact ⟨rfl, rfl⟩
  · exact ⟨rfl, emit_audioEvents rfl⟩

theorem jump_untouched (interpreter : Interpreter) (target : String) :
    Untouched interpreter (interpreter.jump target).2 where
  audio := jump_audio interpreter target
  audioEvents := jump_field Interpreter.audioEvents (fun _ _ _ _ => rfl) target

theorem returnToCaller_untouched (interpreter : Interpreter) :
    Untouched interpreter interpreter.returnToCaller.2 where
  audio := returnToCaller_audio interpreter
  audioEvents := returnToCaller_field Interpreter.audioEvents fun _ _ _ _ => rfl

theorem assignOptional_untouched (interpreter : Interpreter) (expression : Option String) :
    Untouched interpreter (interpreter.assignOptional expression) := by
  cases expression <;> exact ⟨rfl, rfl⟩

theorem showCharacter_untouched (interpreter : Interpreter) (id : String) :
    Untouched interpreter (interpreter.showCharacter id) := by
  simp only [showCharacter]
  split <;> exact ⟨rfl, rfl⟩

theorem fetchUnit_untouched (interpreter : Interpreter) (id : String) :
    Untouched interpreter (interpreter.fetchUnit id).2 := by
  obtain ⟨units, same⟩ := fetchUnit_units interpreter id
  rw [same]
  exact ⟨rfl, rfl⟩

theorem assignOptional_events (interpreter : Interpreter) (expression : Option String) :
    (interpreter.assignOptional expression).events = interpreter.events := by
  cases expression <;> rfl

theorem titled_events (interpreter : Interpreter) (card : Titles) :
    (interpreter.titled card).events = interpreter.events := by
  simp only [titled]
  cases card.durationMs? <;> rfl

theorem Effect.events (effect : Effect interpreter after) : after.events = interpreter.events := by
  cases effect with
  | shown id =>
      simp only [showCharacter]
      split <;> rfl
  | _ => rfl

/-- No step tells the host anything. -/
theorem dispatch_events (interpreter : Interpreter) (step : Step) :
    (interpreter.dispatch step).2.events = interpreter.events := by
  have performed := dispatch_performed interpreter step
  generalize interpreter.dispatch step = dispatched at performed ⊢
  cases performed with
  | passed effect => exact effect.events
  | @jump target _ kind jumped =>
      subst jumped
      exact jump_field Interpreter.events (fun _ _ _ _ => rfl) target
  | back kind returned =>
      subst returned
      exact returnToCaller_field Interpreter.events fun _ _ _ _ => rfl
  | finish kind returned =>
      subst returned
      have unchanged := @returnToCaller_field { interpreter with restoring := false } _
        Interpreter.events fun _ _ _ _ => rfl
      exact unchanged
  | paused pause =>
      cases pause with
      | @dialogue line kind =>
          cases restoring : interpreter.restoring with
          | true =>
              obtain ⟨screen, -, same⟩ := showDialogue_restoring restoring line
              rw [same]
          | false =>
              obtain ⟨screen, entry, -, -, same⟩ := showDialogue_fresh restoring line
              rw [same]
              exact assignOptional_events interpreter line.assignment
      | @titles card kind fresh =>
          rw [showTitles_eq]
          exact (titled_events _ card).trans (assignOptional_events interpreter card.assignment)
      | input kind => rfl
      | choice kind => rfl
  | sceneLost => rfl

theorem tuned_signals (kind : StepKind) (audio : AudioRegistry) :
    (kind.tuned audio).signals = audio.signals := by
  cases kind <;> simp [StepKind.tuned, AudioRegistry.stop, AudioRegistry.stopAll]

/-- Of all steps, only the one that stops every stream touches a pause. -/
theorem tuned_paused {kind : StepKind} (other : kind ≠ .stopAllStreams) (audio : AudioRegistry) :
    (kind.tuned audio).paused = audio.paused := by
  cases kind with
  | stopAllStreams => exact absurd rfl other
  | _ => simp [StepKind.tuned, AudioRegistry.stop]

/-! ## Rounds -/

end Interpreter

/-- The interpreter behind a round. -/
def Turn.after : Turn → Interpreter
  | performed after => after
  | returned after => after
  | stopped outcome => outcome.after
  | ended outcome => outcome.after

namespace Interpreter

variable {before after start reached interpreter : Interpreter} {rounds steps : Nat}

theorem afterStep_untouched (dispatched : Dispatched) :
    Untouched dispatched.2 (afterStep dispatched).after := by
  obtain ⟨result, after⟩ := dispatched
  cases result with
  | error cause => exact ⟨rfl, rfl⟩
  | ok flow =>
      cases flow with
      | complete => exact complete_untouched after
      | _ => exact ⟨rfl, rfl⟩

/-- Whether the next round stops every stream. -/
def Hushed (steps : Nat) (interpreter : Interpreter) : Prop :=
  interpreter.currentKind? = some .stopAllStreams ∧ interpreter.restoring = false ∧
    steps < interpreter.settings.maxAutoSteps

/-- A round leaves the audio as it is, or does to it what the current step says. -/
theorem turn_audio (steps : Nat) (interpreter : Interpreter) :
    (interpreter.turn steps).after.audioEvents = interpreter.audioEvents ∧
      ((interpreter.turn steps).after.audio = interpreter.audio ∨
        ∃ kind, interpreter.currentKind? = some kind ∧ interpreter.restoring = false ∧
          steps < interpreter.settings.maxAutoSteps ∧
          (interpreter.turn steps).after.audio = kind.tuned interpreter.audio) := by
  have settled : ∀ {after : Interpreter}, Untouched interpreter after →
      after.audioEvents = interpreter.audioEvents ∧ (after.audio = interpreter.audio ∨
        ∃ kind, interpreter.currentKind? = some kind ∧ interpreter.restoring = false ∧
          steps < interpreter.settings.maxAutoSteps ∧
          after.audio = kind.tuned interpreter.audio) :=
    fun untouched => ⟨untouched.audioEvents, .inl untouched.audio⟩
  cases current : interpreter.currentStep? with
  | none =>
      apply settled
      simp only [turn]
      split
      · exact complete_untouched interpreter
      · rename_i story running
        have exhausted := (currentStep?_eq running).symm.trans current
        rw [exhausted]
        dsimp only
        have returned := returnToCaller_untouched interpreter
        split
        · rename_i after finished
          rw [finished] at returned
          exact returned.trans (complete_untouched after)
        · rename_i flow after other went
          rw [went] at returned
          exact returned
        · rename_i cause after failed
          rw [failed] at returned
          exact returned.trans ⟨rfl, rfl⟩
  | some step =>
      by_cases room : steps < interpreter.settings.maxAutoSteps
      · rw [turn_step current room]
        have audio := dispatch_audio interpreter step
        have untouched := afterStep_untouched (interpreter.dispatch step)
        have events := congrArg (List.filter StoryEvent.isAudio) (dispatch_events interpreter step)
        refine ⟨untouched.audioEvents.trans events, ?_⟩
        rw [untouched.audio, audio]
        split
        · exact .inl rfl
        · rename_i fresh
          exact .inr ⟨step.kind, by rw [currentKind?, current]; rfl, by simpa using fresh, room, rfl⟩
      · rw [turn_limited current (Nat.not_lt.1 room)]
        exact settled ⟨rfl, rfl⟩

theorem turn_quiet (steps : Nat) (interpreter : Interpreter) :
    Quiet interpreter (interpreter.turn steps).after := by
  obtain ⟨events, same | ⟨kind, -, -, -, same⟩⟩ := turn_audio steps interpreter
  · exact Untouched.quiet ⟨same, events⟩
  · exact ⟨by rw [same, tuned_signals], events⟩

/-- A round that stops every stream ends a pause. -/
theorem Hushed.turn_paused (hushed : Hushed steps interpreter) :
    (interpreter.turn steps).after.audio.paused = false := by
  obtain ⟨current, fresh, room⟩ := hushed
  obtain ⟨step, found, kind⟩ := Option.map_eq_some_iff.1 current
  rw [turn_step found room, (afterStep_untouched _).audio, dispatch_audio, fresh, kind]
  rfl

/-- Every other round leaves a pause as it is. -/
theorem turn_paused (loud : ¬Hushed steps interpreter) :
    (interpreter.turn steps).after.audio.paused = interpreter.audio.paused := by
  rcases (turn_audio steps interpreter).2 with same | ⟨kind, current, fresh, room, same⟩
  · rw [same]
  · rw [same]
    apply tuned_paused
    rintro rfl
    exact loud ⟨current, fresh, room⟩

/-- No round begins a pause. -/
theorem turn_idle (idle : interpreter.audio.paused = false) :
    (interpreter.turn steps).after.audio.paused = false := by
  by_cases hushed : Hushed steps interpreter
  · exact hushed.turn_paused
  · rw [turn_paused hushed]
    exact idle

/-! ## Runs -/

/-- What every round keeps holds behind a run when it holds behind one of its rounds. -/
theorem Reaches.run_keeps (reaches : Reaches start rounds steps reached)
    (kept : Interpreter → Prop)
    (keeps : ∀ {steps interpreter}, kept interpreter → kept (interpreter.turn steps).after)
    (holds : kept (reached.turn steps).after) : kept start.run.after := by
  generalize size : roundsLeft steps reached = left
  induction left using Nat.strongRecOn generalizing rounds steps reached with
  | ind left ih =>
      cases turned : reached.turn steps with
      | performed after =>
          rw [turned] at holds
          have fewer := (turn_performed turned).roundsLeft_lt
          exact ih _ (size ▸ fewer) (reaches.performed turned) (keeps holds) rfl
      | returned after =>
          rw [turned] at holds
          have fewer := (turn_returned turned).roundsLeft_lt
          exact ih _ (size ▸ fewer) (reaches.returned turned) (keeps holds) rfl
      | stopped outcome =>
          rw [turned] at holds
          rw [(Course.stopped reaches turned).run_eq]
          exact holds
      | ended outcome =>
          rw [turned] at holds
          rw [(Course.ended reaches turned).run_eq]
          exact holds

/-- A run tells the host nothing about audio. -/
theorem run_quiet (start : Interpreter) : Quiet start start.run.after :=
  Reaches.start.run_keeps (Quiet start) (fun quiet => quiet.trans (turn_quiet _ _))
    (turn_quiet _ start)

/-- A run from the interpreter stops every stream. -/
def Hushes (start : Interpreter) : Prop :=
  ∃ rounds steps reached, Reaches start rounds steps reached ∧ Hushed steps reached

theorem Reaches.paused (reaches : Reaches start rounds steps reached) (loud : ¬start.Hushes) :
    reached.audio.paused = start.audio.paused := by
  induction reaches with
  | start => rfl
  | @performed rounds steps reached after reaches turned ih =>
      have kept := turn_paused fun hushed => loud ⟨rounds, steps, reached, reaches, hushed⟩
      rw [turned] at kept
      exact kept.trans ih
  | @returned rounds steps reached after reaches turned ih =>
      have kept := turn_paused fun hushed => loud ⟨rounds, steps, reached, reaches, hushed⟩
      rw [turned] at kept
      exact kept.trans ih

/-- A pause is in effect behind a run exactly when it was before and no step of the run stops every
stream. -/
theorem run_paused (start : Interpreter) :
    start.run.after.audio.paused = true ↔ start.audio.paused = true ∧ ¬start.Hushes := by
  constructor
  · intro paused
    constructor
    · cases before : start.audio.paused with
      | true => rfl
      | false =>
          have still := Reaches.start.run_keeps (fun interpreter =>
            interpreter.audio.paused = false) turn_idle (turn_idle before)
          rw [paused] at still
          cases still
    · rintro ⟨rounds, steps, reached, reaches, hushed⟩
      have still := reaches.run_keeps (fun interpreter =>
        interpreter.audio.paused = false) turn_idle hushed.turn_paused
      rw [paused] at still
      cases still
  · rintro ⟨paused, loud⟩
    have last : ∀ {rounds steps reached}, Reaches start rounds steps reached →
        (reached.turn steps).after.audio.paused = true := by
      intro rounds steps reached reaches
      rw [turn_paused fun hushed => loud ⟨rounds, steps, reached, reaches, hushed⟩,
        reaches.paused loud]
      exact paused
    obtain ⟨rounds, steps, course⟩ := run_course start
    cases course with
    | stopped reaches turned =>
        exact (congrArg (·.after.audio.paused) turned).symm.trans (last reaches)
    | ended reaches turned =>
        exact (congrArg (·.after.audio.paused) turned).symm.trans (last reaches)

end Interpreter

/-! ## Plans -/

/-- A plan leaves the audio as it is, up to the run that it prepares. -/
def Plan.Untouched (before : Interpreter) : Plan → Prop
  | settle _ after => Interpreter.Untouched before after
  | refuse _ after => Interpreter.Untouched before after
  | lose _ after => Interpreter.Untouched before after
  | run start => Interpreter.Untouched before start

open Interpreter (Untouched)

variable {before : Interpreter} {plan : Plan}

theorem Plan.Untouched.behind {between : Interpreter} (untouched : plan.Untouched between)
    (audio : between.audio = before.audio) (audioEvents : between.audioEvents = before.audioEvents) :
    plan.Untouched before := by
  have first : Interpreter.Untouched before between := ⟨audio, audioEvents⟩
  cases plan <;> exact first.trans untouched

/-- A plan tells the host nothing about audio. -/
theorem Plan.Untouched.quiet (untouched : plan.Untouched before) :
    Interpreter.Quiet before plan.outcome.after := by
  cases plan with
  | run start => exact (Interpreter.Untouched.quiet untouched).trans start.run_quiet
  | _ => exact ⟨congrArg AudioRegistry.signals untouched.audio, untouched.audioEvents⟩

/-- A plan ends a pause exactly when it runs the story, and a step of the run stops every stream. -/
theorem Plan.Untouched.paused (untouched : plan.Untouched before) :
    plan.outcome.after.audio.paused = true ↔
      before.audio.paused = true ∧ ¬∃ start, plan = .run start ∧ start.Hushes := by
  cases plan with
  | run start =>
      have same := congrArg AudioRegistry.paused untouched.audio
      rw [← same]
      simpa [Plan.outcome] using start.run_paused
  | _ =>
      have same := congrArg AudioRegistry.paused untouched.audio
      simp [Plan.outcome, Interpreter.succeed, Interpreter.refuse, Interpreter.haltAtStep,
        Interpreter.halt, same]

namespace Interpreter

theorem redirectPlan_untouched (interpreter : Interpreter) (target : String) :
    (interpreter.redirectPlan target).Untouched interpreter := by
  have jumped := jump_untouched interpreter target
  simp only [redirectPlan]
  split
  · rename_i moved
    rw [moved] at jumped
    exact jumped
  · rename_i failed
    rw [failed] at jumped
    exact jumped

theorem actionsPlan_untouched (actions : List ChoiceAction) (interpreter : Interpreter) :
    (actionsPlan actions interpreter).Untouched interpreter := by
  induction actions generalizing interpreter with
  | nil => exact ⟨rfl, rfl⟩
  | cons action actions ih =>
      cases action with
      | «show» character =>
          have shown := showCharacter_untouched interpreter character
          exact (ih _).behind shown.audio shown.audioEvents
      | hide character => exact (ih (interpreter.hideCharacter character)).behind rfl rfl
      | dialogue character text => exact ⟨rfl, rfl⟩
      | goto target => exact redirectPlan_untouched interpreter target

theorem partPlan_untouched (interpreter : Interpreter) (next : Nat) :
    (interpreter.partPlan next).Untouched interpreter := by
  simp only [partPlan]
  split
  · rename_i line current
    split
    · rename_i below
      obtain ⟨part, screen, entry, -, -, -, shown⟩ := showPart_eq current below
      rw [shown]
      have assigned := assignOptional_untouched interpreter part.assignment
      exact { audio := assigned.audio, audioEvents := assigned.audioEvents }
    · exact ⟨rfl, rfl⟩
  · exact ⟨rfl, rfl⟩

theorem leftPlan_untouched (interpreter : Interpreter) (left : List Continuation) :
    (interpreter.leftPlan left).Untouched interpreter := by
  cases left with
  | nil => exact ⟨rfl, rfl⟩
  | cons continuation rest =>
      cases continuation with
      | dialogueParts next =>
          exact (partPlan_untouched { interpreter with continuations := rest } next).behind rfl rfl
      | choiceActions remaining => exact (actionsPlan_untouched remaining _).behind rfl rfl
      | interjection screen status => exact ⟨rfl, rfl⟩

theorem advancePlan_untouched (interpreter : Interpreter) :
    interpreter.advancePlan.Untouched interpreter := by
  simp only [advancePlan]
  split
  · exact ⟨rfl, rfl⟩
  · split
    · exact ⟨rfl, rfl⟩
    · exact leftPlan_untouched interpreter interpreter.continuations
    · exact leftPlan_untouched interpreter interpreter.continuations
    · exact ⟨rfl, rfl⟩

theorem restartPlan_untouched (interpreter : Interpreter) (id : Option String) :
    (interpreter.restartPlan id).Untouched interpreter := by
  have fetched := fetchUnit_untouched interpreter ((id.or interpreter.unitId?).getD "start")
  simp only [restartPlan]
  split
  · rename_i failed
    rw [failed] at fetched
    exact fetched
  · rename_i found
    rw [found] at fetched
    exact { audio := fetched.audio, audioEvents := fetched.audioEvents }

theorem gotoPlan_untouched (interpreter : Interpreter) (target : String) :
    (interpreter.gotoPlan target).Untouched interpreter := by
  simp only [gotoPlan]
  split
  · exact ⟨rfl, rfl⟩
  · exact (redirectPlan_untouched _ target).behind rfl rfl

theorem retryPlan_untouched (interpreter : Interpreter) :
    interpreter.retryPlan.Untouched interpreter := by
  simp only [retryPlan]
  split <;> exact ⟨rfl, rfl⟩

theorem firePlan_untouched (interpreter : Interpreter) (token : Nat) :
    (interpreter.firePlan token).Untouched interpreter := by
  simp only [firePlan]
  split
  · exact ⟨rfl, rfl⟩
  · rename_i timer armed
    split
    · exact ⟨rfl, rfl⟩
    · rename_i due
      split
      · rename_i awaits
        simp only [fireTimer, armed]
        rw [if_neg due, if_pos awaits]
        exact ⟨rfl, emit_audioEvents rfl⟩
      · exact (advancePlan_untouched _).behind rfl rfl

theorem tickPlan_untouched (interpreter : Interpreter) (now : Instant) :
    (interpreter.tickPlan now).Untouched interpreter := by
  simp only [tickPlan]
  split
  · exact ⟨rfl, rfl⟩
  · split
    · exact firePlan_untouched interpreter _
    · exact ⟨rfl, rfl⟩

theorem acknowledgePlan_untouched (interpreter : Interpreter) :
    interpreter.acknowledgePlan.Untouched interpreter := by
  simp only [acknowledgePlan]
  split
  · exact (advancePlan_untouched _).behind rfl rfl
  · exact ⟨rfl, rfl⟩

theorem submitPlan_untouched (interpreter : Interpreter) (answer : String) :
    (interpreter.submitPlan answer).Untouched interpreter := by
  simp only [submitPlan]
  split <;> exact ⟨rfl, rfl⟩

theorem selectPlan_untouched (interpreter : Interpreter) (index : Nat) :
    (interpreter.selectPlan index).Untouched interpreter := by
  simp only [selectPlan]
  split
  · exact ⟨rfl, rfl⟩
  · split
    · split
      · exact ⟨rfl, rfl⟩
      · exact (actionsPlan_untouched _ _).behind rfl rfl
    · exact ⟨rfl, rfl⟩

/-- Every operation but a load prepares its run without touching the audio. -/
theorem plan_untouched {operation : Operation} (planned : operation.plan? before = some plan)
    (other : ∀ snapshot, operation ≠ .resumeFrom snapshot) : plan.Untouched before := by
  cases operation with
  | start id =>
      cases planned
      exact restartPlan_untouched before (some id)
  | advance =>
      cases planned
      exact advancePlan_untouched before
  | goto target =>
      cases planned
      exact gotoPlan_untouched before target
  | retry =>
      cases planned
      exact retryPlan_untouched before
  | endStory =>
      cases planned
      have completed := complete_untouched { before.clearDisplay with continuations := [] }
      exact { audio := completed.audio, audioEvents := completed.audioEvents }
  | restart id =>
      cases planned
      exact restartPlan_untouched before id
  | fireTimer token =>
      cases planned
      exact firePlan_untouched before token
  | tick now =>
      cases planned
      exact tickPlan_untouched before now
  | acknowledgeEffect =>
      cases planned
      exact acknowledgePlan_untouched before
  | submitInput answer =>
      cases planned
      exact submitPlan_untouched before answer
  | select index =>
      cases planned
      exact selectPlan_untouched before index
  | inject character text =>
      cases planned
      exact ⟨rfl, rfl⟩
  | resumeFrom snapshot => exact absurd rfl (other snapshot)
  | _ => cases planned

/-! ## Loads -/

theorem insertAll_paused (streams : List AudioStream) (registry : AudioRegistry) :
    (streams.foldl AudioRegistry.insert registry).paused = registry.paused := by
  induction streams generalizing registry with
  | nil => rfl
  | cons stream streams ih => exact ih (registry.insert stream)

theorem insertAll_signals (streams : List AudioStream) (registry : AudioRegistry) :
    (streams.foldl AudioRegistry.insert registry).signals = registry.signals := by
  induction streams generalizing registry with
  | nil => rfl
  | cons stream streams ih => exact ih (registry.insert stream)

/-- A load whose unit is found forgets the pause and tells the host nothing about audio. -/
theorem resumeFrom_audio (before : Interpreter) (snapshot : Snapshot) :
    Quiet before (before.resumeFrom snapshot).after ∧
      ((before.resumeFrom snapshot).after.audio.paused = true ↔
        before.audio.paused = true ∧ ¬(before.fetchUnit snapshot.unitId).1.isOk = true) := by
  have fetched := fetchUnit_untouched before snapshot.unitId
  rw [resumeFrom_plan, resumptionPlan]
  generalize before.fetchUnit snapshot.unitId = outcome at fetched ⊢
  obtain ⟨result, after⟩ := outcome
  cases result with
  | error cause =>
      refine ⟨fetched.quiet, ?_⟩
      change after.audio.paused = true ↔ before.audio.paused = true ∧ ¬false = true
      rw [show after.audio = before.audio from fetched.audio]
      simp
  | ok story =>
      have placed : Quiet after (after.placed story snapshot) :=
        ⟨insertAll_signals _ _, rfl⟩
      have idle : (after.placed story snapshot).audio.paused = false := insertAll_paused _ _
      refine ⟨(fetched.quiet.trans placed).trans (run_quiet _), ?_⟩
      have ran := run_paused (after.placed story snapshot)
      rw [idle] at ran
      simpa [Plan.outcome, Except.isOk, Except.toBool] using ran

end Interpreter

/-! ## Operations -/

/-- Whether an operation ends a pause without telling the host: a reset, a load whose unit is found,
or a run in which a step stops every stream. -/
def Operation.Silences (before : Interpreter) : Operation → Prop
  | reset => True
  | resumeFrom snapshot => (before.fetchUnit snapshot.unitId).1.isOk = true
  | operation => ∃ start, operation.plan? before = some (.run start) ∧ start.Hushes

namespace Interpreter

/-- An operation that leaves the audio to its run ends a pause exactly when a step of the run stops
every stream. -/
theorem planned_audio {operation : Operation} (planned : operation.plan? before = some plan)
    (untouched : plan.Untouched before) :
    Quiet before (operation.perform before) ∧
      ((operation.perform before).audio.paused = true ↔ before.audio.paused = true ∧
        ¬∃ start, operation.plan? before = some (.run start) ∧ start.Hushes) := by
  have performed : operation.perform before = plan.outcome.after := by
    apply Operation.perform_outcome?
    rw [Operation.outcome?_plan, planned]
    rfl
  rw [performed, planned]
  simp only [Option.some.injEq]
  exact ⟨untouched.quiet, untouched.paused⟩

theorem loadCharacters_untouched (before : Interpreter) (ids : List String) :
    Untouched before (before.loadCharacters ids).2 := by
  obtain ⟨state, same⟩ := loadEach_eq ids before
  simp only [loadCharacters]
  split
  · rename_i failed
    rw [failed] at same
    cases same
    exact ⟨rfl, rfl⟩
  · rename_i loaded after succeeded
    rw [succeeded] at same
    cases same
    exact ⟨rfl, emit_audioEvents rfl⟩

/-- An operation that neither pauses nor resumes the audio tells the host nothing about it, and ends
a pause only when it is said to. -/
theorem perform_audio (before : Interpreter) {operation : Operation}
    (pauses : operation ≠ .pauseAudio) (resumes : operation ≠ .resumeAudio) :
    (operation = .drainEvents ∨ Quiet before (operation.perform before)) ∧
      ((operation.perform before).audio.paused = true ↔
        before.audio.paused = true ∧ ¬operation.Silences before) := by
  have settled : Untouched before (operation.perform before) → operation.plan? before = none →
      (operation = .drainEvents ∨ Quiet before (operation.perform before)) ∧
        ((operation.perform before).audio.paused = true ↔ before.audio.paused = true ∧
          ¬∃ start, operation.plan? before = some (.run start) ∧ start.Hushes) := by
    intro untouched unplanned
    rw [unplanned, untouched.audio]
    simp [untouched.quiet]
  have planned : ∀ {plan}, operation.plan? before = some plan →
      (∀ snapshot, operation ≠ .resumeFrom snapshot) →
      (operation = .drainEvents ∨ Quiet before (operation.perform before)) ∧
        ((operation.perform before).audio.paused = true ↔ before.audio.paused = true ∧
          ¬∃ start, operation.plan? before = some (.run start) ∧ start.Hushes) :=
    fun planned other => (planned_audio planned (plan_untouched planned other)).imp_left Or.inr
  cases operation with
  | loadUnit id => exact settled (fetchUnit_untouched before id) rfl
  | loadCharacters ids => exact settled (loadCharacters_untouched before ids) rfl
  | reset =>
      refine ⟨.inr ⟨rfl, rfl⟩, ?_⟩
      simp [Operation.perform, reset, AudioRegistry.stopAll, Operation.Silences]
  | resumeFrom snapshot => exact (resumeFrom_audio before snapshot).imp_left Or.inr
  | pauseAudio => exact absurd rfl pauses
  | resumeAudio => exact absurd rfl resumes
  | drainEvents =>
      refine ⟨.inl rfl, ?_⟩
      simp [Operation.perform, withoutEvents, Operation.Silences, Operation.plan?]
  | edit change => exact settled ⟨rfl, rfl⟩ rfl
  | pass now => exact settled ⟨rfl, rfl⟩ rfl
  | _ => exact planned rfl fun _ same => by cases same

/-- A story tells its host the events on audio that an operation adds. -/
def deck : Deck Interpreter Operation StoryEvent where
  perform := Operation.perform
  tells before operation :=
    (operation.perform before).audioEvents.drop before.audioEvents.length
  paused interpreter := interpreter.audio.paused
  pause := .pauseAudio
  resume := .resumeAudio
  pausing := .audioPaused
  resuming := .audioResumed
  Silences before operation := operation.Silences before

theorem pauseAudio_tells (none : before.audio.signals = []) :
    before.pauseAudio.audioEvents = before.audioEvents ++ [.audioPaused] := by
  simp [pauseAudio, AudioRegistry.pauseAll, forwardSignals, audioEvents, none, StoryEvent.isAudio]

theorem resumeAudio_tells (none : before.audio.signals = []) :
    before.resumeAudio.audioEvents =
      before.audioEvents ++ if before.audio.paused then [.audioResumed] else [] := by
  simp only [resumeAudio, AudioRegistry.resumeAll, forwardSignals, audioEvents]
  split <;> simp [none, StoryEvent.isAudio]

/-- A story forwards every signal at once, so none waits in its registry. -/
theorem deck_lawful : deck.Lawful fun interpreter => interpreter.audio.signals = [] where
  keeps {before} operation none := by
    by_cases pauses : operation = .pauseAudio
    · rw [pauses]
      rfl
    · by_cases resumes : operation = .resumeAudio
      · rw [resumes]
        rfl
      · obtain ⟨rfl | quiet, -⟩ := perform_audio before pauses resumes
        · exact none
        · exact quiet.signals.trans none
  paused_pause _ := rfl
  tells_pause {before} none := by
    change before.pauseAudio.audioEvents.drop _ = _
    rw [pauseAudio_tells none, List.drop_left]
    rfl
  paused_resume before := AudioRegistry.resumeAll_paused before.audio
  tells_resume {before} none := by
    change before.resumeAudio.audioEvents.drop _ = _
    rw [resumeAudio_tells none, List.drop_left]
    rfl
  paused_other pauses resumes := (perform_audio _ pauses resumes).2
  tells_other {before operation} pauses resumes := by
    obtain ⟨rfl | quiet, -⟩ := perform_audio before pauses resumes
    · exact List.drop_nil
    · change (operation.perform before).audioEvents.drop _ = []
      rw [quiet.audioEvents, List.drop_length]
  distinct := by decide

end Interpreter

/-- A restore of a save comes down to operations of a host. -/
theorem SaveCodec.restore_performs (codec : SaveCodec) (game : SaveRecord) (before : Interpreter) :
    ∃ loading, (codec.restore game before).interpreter = Operation.performAll before loading := by
  simp only [restore]
  split
  · exact ⟨[], rfl⟩
  · rename_i accepted passed
    split
    · rename_i failed
      exact ⟨[.loadCharacters (codec.roster accepted before.state)],
        (congrArg Prod.snd failed).symm⟩
    · rename_i after loaded
      refine ⟨[.loadCharacters (codec.roster accepted before.state),
        .edit fun state => overlaid accepted state, .resumeFrom (position accepted)], ?_⟩
      have same : after = (before.loadCharacters (codec.roster accepted before.state)).2 :=
        (congrArg Prod.snd loaded).symm
      rw [same]
      rfl

/-- A pause that the host still follows is answered by the next resume exactly when nothing behind
the pause ended it without telling the host. In a registry only stopping every stream does so. In a
story a step that stops every stream does so, and so do a reset and a load, which is among the
operations that a restore comes down to. -/
theorem pause_answered_iff (content : Content) (settings : StorySettings)
    (operations : List Operation) :
    (∀ actions, AudioRegistry.deck.Pending .empty actions →
      (AudioRegistry.deck.Answers (AudioRegistry.deck.performAll .empty actions) ↔
        AudioRegistry.deck.Stands .empty actions)) ∧
    (Interpreter.deck.Pending (.new content settings) operations →
      (Interpreter.deck.Answers (Operation.performAll (.new content settings) operations) ↔
        Interpreter.deck.Stands (.new content settings) operations)) ∧
    ∀ (codec : SaveCodec) (game : SaveRecord) (before : Interpreter),
      ∃ loading, (codec.restore game before).interpreter = Operation.performAll before loading := by
  refine ⟨?_, ?_, SaveCodec.restore_performs⟩
  · intro actions pending
    exact AudioRegistry.deck_lawful.answers_iff trivial rfl pending
  · intro pending
    exact Interpreter.deck_lawful.answers_iff rfl rfl pending

/-- Content with music and a line. -/
def themeContent : Content :=
  (Library.empty.addUnit ⟨"start", [⟨none, .play .music ⟨"theme.ogg", some true, some "theme"⟩⟩,
    ⟨none, .dialogue ⟨none, "The stage is dark.", none, []⟩⟩]⟩).toContent

/-- The host pauses the music, and loads a save. -/
def themeLoad : List Operation :=
  [.start "start", .pauseAudio, .resumeFrom {
    unitId := "start"
    step := 1
    callStack := []
    visible := []
    scene := none
    history := none
    audio := [⟨"theme", .music, "theme.ogg", true⟩]
    dialoguePart := none }]

theorem pause_answered_iff_theme :
    AudioRegistry.deck.Pending .empty [.pauseAll] ∧
      AudioRegistry.deck.Answers (AudioRegistry.deck.performAll .empty [.pauseAll]) ∧
      Interpreter.deck.Pending (.new themeContent .standard) themeLoad ∧
      ¬Interpreter.deck.Answers (Operation.performAll (.new themeContent .standard) themeLoad) ∧
      ¬Interpreter.deck.Stands (.new themeContent .standard) themeLoad := by
  have told : AudioRegistry.deck.Pending .empty [.pauseAll] := by decide
  have pending : Interpreter.deck.Pending (.new themeContent .standard) themeLoad := by
    decide +kernel
  have silent :
      ¬Interpreter.deck.Answers (Operation.performAll (.new themeContent .standard) themeLoad) := by
    decide +kernel
  obtain ⟨signals, story, -⟩ := pause_answered_iff themeContent .standard themeLoad
  refine ⟨told, (signals _ told).2 ⟨[], [], rfl, trivial⟩, pending, silent, ?_⟩
  exact mt (story pending).2 silent

end VisualNovel
