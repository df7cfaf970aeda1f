import VisualNovel.Proofs.Interpreter.Calls
import VisualNovel.Proofs.Interpreter.Coherence

/-!
# The range of a position

A position is in range when its step, and the step of every frame, is at most behind the last step
of its unit. A story gets out of range in two ways only: a host calls a unit from behind the last
step of another one, or resumes from a snapshot with a frame that is out of range already.
-/

namespace VisualNovel

variable {content : Content} {settings : StorySettings} {policy : Policy}

/-- Whether a frame returns to a step of its unit or right behind the last one. -/
def CallFrame.InRange (content : Content) (frame : CallFrame) : Prop :=
  ∀ story, content.unit? frame.unitId = some story → frame.step ≤ story.steps.length

namespace Position

variable {position after : Position}

/-- Whether the step of the position and that of every frame are in range. -/
structure InRange (content : Content) (position : Position) : Prop where
  step : ∀ {story}, position.story = some story → position.step ≤ story.steps.length
  frames : ∀ frame ∈ position.callStack, frame.InRange content

/-- Whether there is a step at the position. -/
def HasStep (position : Position) : Prop :=
  ∃ story, position.story = some story ∧ position.step < story.steps.length

theorem InRange.label {story : StoryUnit} {target : String} {step : Nat}
    (inRange : position.InRange content) (current : position.story = some story)
    (label : story.labelIndex? target = some step) :
    InRange content { position with step } := by
  refine ⟨?_, inRange.frames⟩
  intro other same
  cases current.symm.trans same
  exact Nat.le_of_lt (List.findIdx?_eq_some_iff_getElem.1 label).1

/-- A return leads to where a frame in range points. -/
theorem InRange.returns (inRange : position.InRange content)
    (returns : position.Returns content after) : after.InRange content := by
  obtain ⟨frame, callStack, story, stack, loaded, rfl⟩ := returns
  constructor
  · intro other same
    cases same
    exact inRange.frames frame (stack ▸ List.mem_cons_self ..) story loaded
  · intro older member
    exact inRange.frames older (stack ▸ List.mem_cons_of_mem _ member)

/-- A call from a step pushes a frame in range. -/
theorem InRange.calls {target : String} (inRange : position.InRange content)
    (known : ∀ {story}, position.story = some story → content.unit? story.id = some story)
    (standing : position.HasStep) (calls : position.Calls content target after) :
    after.InRange content := by
  obtain ⟨story, next, current, -, -, rfl⟩ := calls
  obtain ⟨other, same, below⟩ := standing
  cases current.symm.trans same
  constructor
  · intro callee entered
    cases entered
    exact Nat.zero_le _
  · intro frame member
    rcases List.mem_cons.1 member with rfl | older
    · intro caller loaded
      cases (known current).symm.trans loaded
      exact below
    · exact inRange.frames frame older

/-- Every move from a step stays in range. -/
theorem InRange.move (inRange : position.InRange content)
    (known : ∀ {story}, position.story = some story → content.unit? story.id = some story)
    (standing : position.HasStep) (move : Move content position after) :
    after.InRange content := by
  cases move with
  | stay => exact inRange
  | forward =>
      refine ⟨?_, inRange.frames⟩
      intro story current
      obtain ⟨other, same, below⟩ := standing
      cases current.symm.trans same
      exact below
  | label current label => exact inRange.label current label
  | call calls => exact inRange.calls known standing calls
  | back returns => exact inRange.returns returns

/-- A call from behind the last step pushes a frame out of range. -/
theorem Calls.not_inRange {target : String} (calls : position.Calls content target after)
    (known : ∀ {story}, position.story = some story → content.unit? story.id = some story)
    (behind : ¬ position.HasStep) : ¬ after.InRange content := by
  obtain ⟨story, next, current, -, -, rfl⟩ := calls
  intro inRange
  have below := inRange.frames _ (List.mem_cons_self ..) story (known current)
  exact behind ⟨story, current, below⟩

end Position

namespace Interpreter

variable {before interpreter after start : Interpreter} {operation : Operation}

/-! ## Where a story has a step -/

theorem hasStep_of_step {story : StoryUnit} {step : Step} (current : interpreter.story = some story)
    (found : story.step? interpreter.step = some step) : interpreter.position.HasStep :=
  ⟨story, current, step?_lt found⟩

theorem Fits.currentKind {current : Option StepKind} {timed : Bool} {screen : Screen}
    {status : Status} {left : List Continuation} (fits : Fits current timed screen status left)
    (waiting : status.isWaiting = true) : ∃ kind, current = some kind := by
  cases fits with
  | idle idle =>
      rw [idle] at waiting
      cases waiting
  | line current lined => exact ⟨_, current⟩
  | parts current lined below => exact ⟨_, current⟩
  | actions current member split lined => exact ⟨_, current⟩
  | titles current duration => exact ⟨_, current⟩
  | input current path => exact ⟨_, current⟩
  | choice current labels => exact ⟨_, current⟩

/-- A story that waits at its step has a step. -/
theorem Settled.hasStep (settled : interpreter.Settled) (waits : interpreter.Waits) :
    interpreter.position.HasStep := by
  have uncovered : interpreter.isInterrupted ≠ true := by
    intro interrupted
    exact waits.2 interrupted (settled.coherent.interrupted interrupted)
  have fits : Fits interpreter.currentKind? interpreter.isTimed interpreter.screen
      interpreter.status interpreter.continuations := by
    simp only [Settled] at settled
    simp only [isInterrupted] at uncovered
    cases stack : interpreter.continuations with
    | nil =>
        rw [stack] at settled
        exact settled
    | cons entry left =>
        rw [stack] at settled uncovered
        cases entry with
        | interjection screen status => exact absurd rfl uncovered
        | dialogueParts next => exact settled
        | choiceActions remaining => exact settled
  obtain ⟨kind, current⟩ := fits.currentKind waits.1
  obtain ⟨step, found, -⟩ := Option.map_eq_some_iff.1 current
  obtain ⟨story, running, position⟩ := currentStep?_eq_some found
  exact hasStep_of_step running position

/-! ## Runs and operations -/

/-- A round leaves a step, or returns from behind the last one. -/
theorem Supplied.round_inRange {dispatched following : Nat}
    (supplied : interpreter.Supplied content) (inRange : interpreter.position.InRange content)
    (round : Round dispatched interpreter following after) : after.position.InRange content := by
  have move := (supplied.round round).2
  cases round with
  | returned current exhausted returned =>
      exact inRange.returns (supplied.returnToCaller returned).2
  | passed current found below effect =>
      exact inRange.move supplied.story (hasStep_of_step current found) move
  | jumped current found below jumped =>
      exact inRange.move supplied.story (hasStep_of_step current found) move

/-- The operations that lead out of range. -/
inductive Escapes (content : Content) (before : Interpreter) : Operation → Prop where
  /-- A unit is called from behind the last step. -/
  | called {target : String} {callee : Position} :
      before.position.Calls content target callee → ¬ before.position.HasStep →
      Escapes content before (.goto target)
  /-- A frame of the snapshot is out of range. -/
  | resumed {snapshot : Snapshot} {story : StoryUnit} {frame : CallFrame} :
      content.unit? snapshot.unitId = some story → frame ∈ snapshot.callStack →
      ¬ frame.InRange content → Escapes content before (.resumeFrom snapshot)

theorem placed_position (interpreter : Interpreter) (story : StoryUnit) (snapshot : Snapshot) :
    (interpreter.placed story snapshot).position =
      ⟨some story, min snapshot.step story.steps.length, snapshot.callStack.reverse⟩ :=
  rfl

/-- An operation that does not lead out of range runs from a position in range. -/
theorem Supplied.launch_inRange (supplied : before.Supplied content) (settled : before.Settled)
    (inRange : before.position.InRange content) (launch : Launch before operation start)
    (within : ¬ Escapes content before operation) : start.position.InRange content := by
  cases launch with
  | left waits leaves =>
      exact inRange.move supplied.story (settled.hasStep waits) (supplied.leaves leaves).2
  | @redirected target flow start jumped =>
      rcases (supplied.dropped.jump jumped).2 with ⟨story, step, current, label, same⟩ | calls
      · rw [same]
        exact inRange.label current label
      · refine inRange.calls supplied.story (Classical.byContradiction fun behind => ?_) calls
        exact within (.called calls behind)
  | again halted => exact inRange
  | restarted startsOver fetched =>
      refine ⟨fun _ => Nat.zero_le _, ?_⟩
      intro frame member
      cases member
  | @resumed snapshot story after fetched =>
      obtain ⟨units, known, rfl⟩ := fetchUnit_ok fetched
      rw [placed_position]
      constructor
      · intro other same
        cases same
        exact Nat.min_le_right ..
      · intro frame member
        refine Classical.byContradiction fun outside => ?_
        exact within (.resumed (supplied.fetched known).1 (List.mem_reverse.1 member) outside)

/-- An operation that leads out of range runs from a position out of range. -/
theorem Supplied.escapes (supplied : before.Supplied content)
    (escapes : Escapes content before operation) :
    ∃ start, Launch before operation start ∧ operation.perform before = start.run.after ∧
      ¬ start.position.InRange content := by
  cases escapes with
  | @called target callee calls behind =>
      obtain ⟨start, jumped, position⟩ := supplied.dropped.jump_calls calls
      refine ⟨start, .redirected jumped, ?_, ?_⟩
      · obtain ⟨story, next, current, -⟩ := calls
        have started : before.story.isNone = false := by
          rw [show before.story = some story from current]
          rfl
        change (before.goto target).after = _
        simp only [goto, redirect]
        rw [jumped, started]
        rfl
      · rw [position]
        exact calls.not_inRange supplied.story behind
  | @resumed snapshot story frame loaded member outside =>
      obtain ⟨units, fetched, -⟩ := supplied.fetchUnit loaded
      refine ⟨_, .resumed fetched, congrArg Outcome.after (resumeFrom_eq fetched), ?_⟩
      rw [placed_position]
      intro inRange
      exact outside (inRange.frames frame (List.mem_reverse.2 member))

end Interpreter

open Interpreter

/-! ## Moments in range -/

/-- The host performs no operation that leads out of range. -/
def Policy.within (content : Content) : Policy := fun before operation =>
  ¬ Escapes content before operation

namespace Moment

variable {moment next first last : Moment} {moments : List Moment}

/-- Whether the display belongs to the step when the story rests, or will at the end of the run. -/
def Settles : Moment → Prop
  | running dispatched interpreter =>
    ∃ start rounds, Reaches start rounds dispatched interpreter ∧ start.run.after.Settled
  | resting interpreter => interpreter.Settled

theorem Follows.settles (follows : Follows policy moment next) (settles : moment.Settles) :
    next.Settles := by
  cases follows with
  | performed turned =>
      obtain ⟨start, rounds, reaches, settled⟩ := settles
      exact ⟨start, rounds + 1, reaches.performed turned, settled⟩
  | returned turned =>
      obtain ⟨start, rounds, reaches, settled⟩ := settles
      exact ⟨start, rounds + 1, reaches.returned turned, settled⟩
  | stopped turned =>
      obtain ⟨start, rounds, reaches, settled⟩ := settles
      rw [(Course.stopped reaches turned).run_eq] at settled
      exact settled
  | ended turned =>
      obtain ⟨start, rounds, reaches, settled⟩ := settles
      rw [(Course.ended reaches turned).run_eq] at settled
      exact settled
  | @began before start operation permitted launch same =>
      have settled := perform_settled before operation settles
      rw [same] at settled
      exact ⟨start, 0, .start, settled⟩
  | @rested before operation permitted rested => exact perform_settled before operation settles

/-- What follows a moment in range is in range, unless the host leads out of it. -/
theorem Follows.inRange (follows : Follows (Policy.within content) moment next)
    (supplied : moment.interpreter.Supplied content) (settles : moment.Settles)
    (inRange : moment.position.InRange content) : next.position.InRange content := by
  cases follows with
  | performed turned => exact supplied.round_inRange inRange (turn_performed turned)
  | returned turned => exact supplied.round_inRange inRange (turn_returned turned)
  | stopped turned =>
      rw [resting_position (turn_stopped turned).2]
      exact inRange
  | ended turned =>
      rw [resting_position (turn_ended turned)]
      exact inRange
  | began within launch same => exact supplied.launch_inRange settles inRange launch within
  | @rested before operation within rested =>
      change (operation.perform before).position.InRange content
      rcases rested.position with same | ⟨-, same⟩
      · rw [same]
        exact inRange
      · rw [same]
        exact ⟨nofun, nofun⟩

theorem Passage.settles (passage : Passage policy first moments last) (settles : first.Settles) :
    last.Settles :=
  passage.induction Settles (fun settles follows => follows.settles settles) settles

theorem Passage.inRange (passage : Passage (Policy.within content) first moments last)
    (supplied : first.interpreter.Supplied content) (settles : first.Settles)
    (inRange : first.position.InRange content) : last.position.InRange content := by
  induction passage with
  | here => exact inRange
  | snoc passage follows inRange =>
      exact follows.inRange (passage.supplied supplied) (passage.settles settles) inRange

end Moment

/-- A story gets out of range exactly by an operation that calls a unit from behind the last step of
another one, or that resumes from a snapshot with a frame out of range. -/
theorem range_kept_iff {moments : List Moment} {last : Moment}
    (passage : Moment.Passage (Policy.within content) (.resting (.new content settings))
      moments last) :
    (∀ moment ∈ moments, moment.position.InRange content) ∧
      ∀ before operation, last = .resting before →
        ((∀ next, Moment.Follows (Policy.only operation) last next →
            next.position.InRange content) ↔ ¬ Escapes content before operation) := by
  have supplied : Supplied content (.new content settings) := (new_sound content settings).supplied
  have idle : Moment.Settles (.resting (.new content settings)) :=
    Idle.settled ⟨rfl, rfl, rfl, rfl⟩ rfl
  have nowhere : Position.InRange content (Moment.position (.resting (.new content settings))) :=
    ⟨nofun, nofun⟩
  constructor
  · refine passage.all fun through => ?_
    exact through.inRange supplied idle nowhere
  · rintro before operation rfl
    have known : before.Supplied content := passage.supplied supplied
    constructor
    · intro kept escapes
      obtain ⟨start, launch, same, outside⟩ := known.escapes escapes
      exact outside (kept _ (.began rfl launch same))
    · intro within next follows
      -- The host performs this one operation, which leads nowhere out of range.
      have allowed : Moment.Follows (Policy.within content) (.resting before) next := by
        cases follows with
        | began only launch same =>
            cases only
            exact .began within launch same
        | rested only rested =>
            cases only
            exact .rested within rested
      exact allowed.inRange known (passage.settles idle) (passage.inRange supplied idle nowhere)

/-- Content with two units of one line. -/
def pairContent : Content :=
  ((Library.empty.addUnit ⟨"start", [⟨none, .dialogue ⟨none, "Here", none, []⟩⟩]⟩).addUnit
    ⟨"other", [⟨none, .dialogue ⟨none, "There", none, []⟩⟩]⟩).toContent

/-- The story behind its end. -/
def pairOver : Interpreter :=
  Operation.performAll (.new pairContent .standard) [.start "start", .advance]

/-- A goto behind the end of the story leads out of range, and the return behind it leads to a step
behind the end of the unit. -/
theorem range_kept_iff_over :
    (∃ moments, Moment.Passage (Policy.within pairContent) (.resting (.new pairContent .standard))
        moments (.resting pairOver) ∧ ∀ moment ∈ moments, moment.position.InRange pairContent) ∧
      (¬ ∀ next, Moment.Follows (Policy.only (.goto "other")) (.resting pairOver) next →
        next.position.InRange pairContent) ∧
      (Operation.performAll pairOver [.goto "other", .advance]).step = 2 := by
  have permitted : ∀ before, ∀ operation ∈ [Operation.start "start", .advance],
      Policy.within pairContent before operation := by
    intro before operation member escapes
    cases escapes with
    | called calls behind => simp at member
    | resumed loaded framed outside => simp at member
  obtain ⟨moments, passage⟩ : ∃ moments, Moment.Passage (Policy.within pairContent)
      (.resting (.new pairContent .standard)) moments (.resting pairOver) :=
    Moment.Passage.here.performAll permitted
  have kept := range_kept_iff passage
  refine ⟨⟨moments, passage, kept.1⟩, ?_, rfl⟩
  rw [kept.2 pairOver (.goto "other") rfl, Classical.not_not]
  apply Escapes.called
  · exact ⟨_, _, rfl, rfl, rfl, rfl⟩
  · rintro ⟨story, current, below⟩
    cases current
    exact absurd below (by decide)

end VisualNovel
