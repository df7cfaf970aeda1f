import VisualNovel.Proofs.Interpreter.Position
import VisualNovel.Proofs.Interpreter.Resuming

/-!
# The moments of a story

A host sees an interpreter between two operations. Within an operation the interpreter may run, and
each round of the run is a moment of its own. The lemmas of this module say what a host can make
happen at each moment, so that a property of every moment needs one look at what happens there, and
no look at the operations.
-/

namespace VisualNovel

namespace Operation

/-- Whether the operation forgets the callers. -/
def startsOver : Operation → Bool
  | start _ => true
  | restart _ => true
  | reset => true
  | _ => false

/-- Whether the operation takes the callers from a snapshot. -/
def resumes : Operation → Bool
  | resumeFrom _ => true
  | _ => false

end Operation

namespace Interpreter

variable {before front after start : Interpreter} {outcome : Outcome}

/-! ## Operations that do not run -/

/-- An interpreter that did not run. -/
inductive Rested (before : Interpreter) : Operation → Interpreter → Prop where
  | kept {operation : Operation} {after : Interpreter} :
      Keeps before after → Rested before operation after
  | loaded {id : String} : Rested before (.loadUnit id) (before.fetchUnit id).2
  | reset : Rested before .reset before.reset

/-! ## Operations that run -/

/-- Whether the story waits at its step, and not for an injected line to be dismissed. -/
def Waits (interpreter : Interpreter) : Prop :=
  interpreter.status.isWaiting = true ∧
    (interpreter.isInterrupted = true → interpreter.status ≠ .dialogue)

/-- The ways to leave a step that waits. -/
inductive Leaves (before : Interpreter) : Interpreter → Prop where
  | forward {front : Interpreter} :
      Keeps before front →
      Leaves before { front.clearDisplay with restoring := false, step := front.step + 1 }
  | jumped {front after : Interpreter} {target : String} {flow : Flow} :
      Keeps before front → front.jump target = (.ok flow, after) → Leaves before after

/-- The interpreters that an operation runs. -/
inductive Launch (before : Interpreter) : Operation → Interpreter → Prop where
  | left {operation : Operation} {start : Interpreter} :
      before.Waits → Leaves before start → Launch before operation start
  | redirected {target : String} {flow : Flow} {start : Interpreter} :
      { before with continuations := [], restoring := false }.jump target = (.ok flow, start) →
      Launch before (.goto target) start
  | again : before.status.isHalted = true → Launch before .retry before
  | restarted {operation : Operation} {id : String} {story : StoryUnit} {after : Interpreter} :
      operation.startsOver = true → before.fetchUnit id = (.ok story, after) →
      Launch before operation { after.clearDisplay with
        callStack := [], continuations := [], restoring := false, story := some story, step := 0 }
  | resumed {snapshot : Snapshot} {story : StoryUnit} {after : Interpreter} :
      before.fetchUnit snapshot.unitId = (.ok story, after) →
      Launch before (.resumeFrom snapshot) (after.placed story snapshot)

/-- What an operation comes to that lets the story go on. -/
inductive Continued (before : Interpreter) : Outcome → Prop where
  | kept {outcome : Outcome} : Keeps before outcome.after → Continued before outcome
  | left {start : Interpreter} : before.Waits → Leaves before start → Continued before start.run

theorem Leaves.keeps (keeps : Keeps before front) (leaves : Leaves front start) :
    Leaves before start := by
  cases leaves with
  | forward kept => exact .forward (keeps.trans kept)
  | jumped kept jumped => exact .jumped (keeps.trans kept) jumped

theorem Continued.keeps (keeps : Keeps before front) (waits : front.Waits → before.Waits)
    (continued : Continued front outcome) : Continued before outcome := by
  cases continued with
  | kept kept => exact .kept (keeps.trans kept)
  | left waiting leaves => exact .left (waits waiting) (leaves.keeps keeps)

theorem Continued.stepForward (waits : before.Waits) (keeps : Keeps before front) :
    Continued before front.stepForward :=
  .left waits (.forward keeps)

theorem Continued.redirect (waits : before.Waits) (keeps : Keeps before front) (target : String) :
    Continued before (front.redirect target) := by
  simp only [Interpreter.redirect]
  split
  · rename_i flow after jumped
    exact .left waits (.jumped keeps jumped)
  · rename_i cause after failed
    cases jump_error failed
    exact .kept (keeps.trans ⟨rfl, rfl, rfl⟩)

theorem Continued.runActions (waits : before.Waits) (keeps : Keeps before front)
    (actions : List ChoiceAction) : Continued before (runActions actions front) := by
  induction actions generalizing front with
  | nil => exact .stepForward waits keeps
  | cons action actions ih =>
      cases action with
      | «show» character =>
          exact ih (keeps.trans (showCharacter_backstage front character).keeps)
      | hide character => exact ih (keeps.trans (hideCharacter_backstage front character).keeps)
      | dialogue character text => exact .kept (keeps.trans ⟨rfl, rfl, rfl⟩)
      | goto target => exact .redirect waits keeps target

theorem Continued.showPart (waits : before.Waits) (keeps : Keeps before front) (next : Nat) :
    Continued before (front.showPart next) := by
  unfold Interpreter.showPart
  split
  · split
    · exact .stepForward waits keeps
    · rename_i part found
      have assigned := keeps.trans (assignOptional_backstage front part.assignment).keeps
      generalize front.assignOptional part.assignment = assignee at assigned
      apply Continued.kept
      dsimp only
      split
      · exact assigned.trans ⟨rfl, rfl, rfl⟩
      · exact assigned.trans ⟨rfl, rfl, rfl⟩
  · exact .stepForward waits keeps

theorem Continued.resume (waits : before.Waits) (keeps : Keeps before front)
    (entry : Continuation) : Continued before (front.resume entry) := by
  cases entry with
  | dialogueParts next => exact .showPart waits keeps next
  | choiceActions remaining =>
      have cleared : Keeps before front.clearScreen := keeps.trans ⟨rfl, rfl, rfl⟩
      exact .runActions waits cleared remaining
  | interjection screen status => exact .kept (keeps.trans ⟨rfl, rfl, rfl⟩)

theorem advance_continued (before : Interpreter) : Continued before before.advance := by
  simp only [advance]
  split
  · exact .kept ⟨rfl, rfl, rfl⟩
  · rename_i top
    -- No injected line is on screen, so a story that waits does so at its step.
    have uncovered : before.isInterrupted = false := by
      simp only [isInterrupted]
      cases stack : before.continuations with
      | nil => rfl
      | cons entry rest =>
          cases entry with
          | interjection screen status => exact absurd stack (top screen status rest)
          | dialogueParts next => rfl
          | choiceActions remaining => rfl
    split
    · exact .kept ⟨rfl, rfl, rfl⟩
    · exact .kept ⟨rfl, rfl, rfl⟩
    · exact .kept ⟨rfl, rfl, rfl⟩
    · exact .kept ⟨rfl, rfl, rfl⟩
    · exact .kept ⟨rfl, rfl, rfl⟩
    · have waits : before.Waits := by
        constructor
        · cases status : before.status <;> simp_all [Status.isWaiting]
        · rw [uncovered]
          intro impossible
          cases impossible
      split
      · exact .stepForward waits ⟨rfl, rfl, rfl⟩
      · rename_i entry rest stack
        have popped : Keeps before { before with continuations := rest } := ⟨rfl, rfl, rfl⟩
        exact .resume waits popped entry

theorem fireTimer_continued (before : Interpreter) (token : Nat) :
    Continued before (before.fireTimer token) := by
  simp only [fireTimer]
  split
  · exact .kept ⟨rfl, rfl, rfl⟩
  · split
    · exact .kept ⟨rfl, rfl, rfl⟩
    · split
      · exact .kept ⟨rfl, rfl, rfl⟩
      · have disarmed : Keeps before { before with timer := none } := ⟨rfl, rfl, rfl⟩
        exact Continued.keeps disarmed id (advance_continued _)

theorem tick_continued (before : Interpreter) (now : Instant) :
    Continued before (before.tick now) := by
  simp only [tick]
  split
  · exact .kept ⟨rfl, rfl, rfl⟩
  · split
    · exact fireTimer_continued before _
    · exact .kept ⟨rfl, rfl, rfl⟩

theorem acknowledgeEffect_continued (before : Interpreter) :
    Continued before before.acknowledgeEffect := by
  simp only [acknowledgeEffect]
  split
  · have acknowledged : Keeps before { before with effectPending := false } := ⟨rfl, rfl, rfl⟩
    exact Continued.keeps acknowledged id (advance_continued _)
  · exact .kept ⟨rfl, rfl, rfl⟩

theorem submitInput_continued (before : Interpreter) (answer : String) :
    Continued before (before.submitInput answer) := by
  simp only [submitInput]
  split
  · exact .kept ⟨rfl, rfl, rfl⟩
  · rename_i asking
    have asked : before.status = .input := Decidable.not_not.1 asking
    have waits : before.Waits := by
      simp only [Waits]
      rw [asked]
      exact ⟨rfl, fun _ => Status.noConfusion⟩
    exact .stepForward waits ⟨rfl, rfl, rfl⟩

theorem select_continued (before : Interpreter) (index : Nat) :
    Continued before (before.select index) := by
  simp only [select]
  split
  · exact .kept ⟨rfl, rfl, rfl⟩
  · rename_i offering
    have offered : before.status = .choice := Decidable.not_not.1 offering
    have waits : before.Waits := by
      simp only [Waits]
      rw [offered]
      exact ⟨rfl, fun _ => Status.noConfusion⟩
    split
    · split
      · exact .kept ⟨rfl, rfl, rfl⟩
      · have cleared : Keeps before before.clearScreen := ⟨rfl, rfl, rfl⟩
        exact .runActions waits cleared _
    · exact .kept ⟨rfl, rfl, rfl⟩

/-! ## Every operation -/

/-- What an operation comes to: the interpreter did not run, or it ran once. -/
def Happened (before : Interpreter) (operation : Operation) (after : Interpreter) : Prop :=
  Rested before operation after ∨
    ∃ start, Launch before operation start ∧ after = start.run.after

theorem Continued.happened (continued : Continued before outcome) (operation : Operation) :
    Happened before operation outcome.after := by
  cases continued with
  | kept keeps => exact .inl (.kept keeps)
  | left waits leaves => exact .inr ⟨_, .left waits leaves, rfl⟩

theorem restart_happened (before : Interpreter) (id : Option String) {operation : Operation}
    (startsOver : operation.startsOver = true) :
    Happened before operation (before.restart id).after := by
  simp only [restart]
  split
  · rename_i cause after failed
    cases fetchUnit_error failed
    exact .inl (.kept ⟨rfl, rfl, rfl⟩)
  · rename_i story after fetched
    exact .inr ⟨_, .restarted startsOver fetched, rfl⟩

theorem goto_happened (before : Interpreter) (target : String) :
    Happened before (.goto target) (before.goto target).after := by
  simp only [goto, redirect]
  split
  · exact .inl (.kept ⟨rfl, rfl, rfl⟩)
  · split
    · rename_i flow after jumped
      exact .inr ⟨_, .redirected jumped, rfl⟩
    · rename_i cause after failed
      cases jump_error failed
      exact .inl (.kept ⟨rfl, rfl, rfl⟩)

theorem retry_happened (before : Interpreter) :
    Happened before .retry before.retry.after := by
  simp only [retry]
  split
  · rename_i halted
    exact .inr ⟨_, .again halted, rfl⟩
  · exact .inl (.kept ⟨rfl, rfl, rfl⟩)

theorem resumeFrom_happened (before : Interpreter) (snapshot : Snapshot) :
    Happened before (.resumeFrom snapshot) (before.resumeFrom snapshot).after := by
  generalize fetched : before.fetchUnit snapshot.unitId = result
  obtain ⟨result, after⟩ := result
  cases result with
  | error cause =>
      simp only [resumeFrom]
      rw [fetched]
      cases fetchUnit_error fetched
      exact .inl (.kept ⟨rfl, rfl, rfl⟩)
  | ok story =>
      rw [resumeFrom_eq fetched]
      exact .inr ⟨_, .resumed fetched, rfl⟩

/-- Every operation runs at most once. -/
theorem perform_happened (before : Interpreter) (operation : Operation) :
    Happened before operation (operation.perform before) := by
  cases operation with
  | loadUnit id => exact .inl .loaded
  | loadCharacters ids =>
      obtain ⟨state, visible, events, same⟩ := loadCharacters_eq before ids
      change Happened before _ (before.loadCharacters ids).2
      rw [same]
      exact .inl (.kept ⟨rfl, rfl, rfl⟩)
  | start id => exact restart_happened before (some id) rfl
  | advance => exact (advance_continued before).happened _
  | goto target => exact goto_happened before target
  | retry => exact retry_happened before
  | endStory =>
      have cleared : Keeps before { before.clearDisplay with continuations := [] } :=
        ⟨rfl, rfl, rfl⟩
      exact .inl (.kept (cleared.trans (complete_keeps _)))
  | restart id => exact restart_happened before id rfl
  | reset => exact .inl .reset
  | fireTimer token => exact (fireTimer_continued before token).happened _
  | tick now => exact (tick_continued before now).happened _
  | acknowledgeEffect => exact (acknowledgeEffect_continued before).happened _
  | submitInput answer => exact (submitInput_continued before answer).happened _
  | select index => exact (select_continued before index).happened _
  | inject character text => exact .inl (.kept ⟨rfl, rfl, rfl⟩)
  | resumeFrom snapshot => exact resumeFrom_happened before snapshot
  | pauseAudio => exact .inl (.kept ⟨rfl, rfl, rfl⟩)
  | resumeAudio => exact .inl (.kept ⟨rfl, rfl, rfl⟩)
  | drainEvents => exact .inl (.kept ⟨rfl, rfl, rfl⟩)
  | edit change => exact .inl (.kept ⟨rfl, rfl, rfl⟩)
  | pass now => exact .inl (.kept ⟨rfl, rfl, rfl⟩)

end Interpreter

open Interpreter

/-! ## Moments -/

/-- Which operations a host performs, and on which interpreters. -/
def Policy := Interpreter → Operation → Prop

namespace Policy

/-- The host performs any operation. -/
def any : Policy := fun _ _ => True

/-- The host performs one operation. -/
def only (operation : Operation) : Policy := fun _ other => other = operation

/-- The host resumes from no snapshot. -/
def fresh : Policy := fun _ operation => operation.resumes = false

/-- The host starts over. -/
def startingOver : Policy := fun _ operation => operation.startsOver = true

/-- The host leaves the story its callers. -/
def keeping : Policy := fun _ operation =>
  operation.startsOver = false ∧ operation.resumes = false

end Policy

/-- A moment of a story. -/
inductive Moment where
  /-- In front of a round of a run, which has performed some steps. -/
  | running (dispatched : Nat) (interpreter : Interpreter)
  /-- Between two operations. -/
  | resting (interpreter : Interpreter)

namespace Moment

/-- The interpreter at a moment. -/
def interpreter : Moment → Interpreter
  | running _ interpreter => interpreter
  | resting interpreter => interpreter

/-- Where the story stands at a moment. -/
def position (moment : Moment) : Position :=
  moment.interpreter.position

/-- What follows a moment when the host acts by a policy. -/
inductive Follows (policy : Policy) : Moment → Moment → Prop where
  | performed {dispatched : Nat} {interpreter after : Interpreter} :
      interpreter.turn dispatched = .performed after →
      Follows policy (running dispatched interpreter) (running (dispatched + 1) after)
  | returned {dispatched : Nat} {interpreter after : Interpreter} :
      interpreter.turn dispatched = .returned after →
      Follows policy (running dispatched interpreter) (running dispatched after)
  | stopped {dispatched : Nat} {interpreter : Interpreter} {outcome : Outcome} :
      interpreter.turn dispatched = .stopped outcome →
      Follows policy (running dispatched interpreter) (resting outcome.after)
  | ended {dispatched : Nat} {interpreter : Interpreter} {outcome : Outcome} :
      interpreter.turn dispatched = .ended outcome →
      Follows policy (running dispatched interpreter) (resting outcome.after)
  | began {before start : Interpreter} {operation : Operation} :
      policy before operation → Launch before operation start →
      operation.perform before = start.run.after →
      Follows policy (resting before) (running 0 start)
  | rested {before : Interpreter} {operation : Operation} :
      policy before operation → Rested before operation (operation.perform before) →
      Follows policy (resting before) (resting (operation.perform before))

/-- The moments from one to another, both included. -/
inductive Passage (policy : Policy) (first : Moment) : List Moment → Moment → Prop where
  | here : Passage policy first [first] first
  | snoc {moments : List Moment} {last after : Moment} :
      Passage policy first moments last → Follows policy last after →
      Passage policy first (moments ++ [after]) after

variable {policy : Policy} {first last after : Moment} {moments : List Moment}

/-- What follows every moment holds at the end of a passage. -/
theorem Passage.induction (kept : Moment → Prop)
    (keeps : ∀ {moment next}, kept moment → Follows policy moment next → kept next)
    (holds : kept first) (passage : Passage policy first moments last) : kept last := by
  induction passage with
  | here => exact holds
  | snoc passage follows ih => exact keeps ih follows

/-- What holds at the end of every passage holds at every moment of a passage. -/
theorem Passage.all {kept : Moment → Prop}
    (holds : ∀ {moments last}, Passage policy first moments last → kept last)
    (passage : Passage policy first moments last) : ∀ moment ∈ moments, kept moment := by
  induction passage with
  | here =>
      intro moment member
      rw [List.mem_singleton.1 member]
      exact holds .here
  | snoc passage follows ih =>
      intro moment member
      rcases List.mem_append.1 member with earlier | new
      · exact ih moment earlier
      · rw [List.mem_singleton.1 new]
        exact holds (passage.snoc follows)

/-- A passage leads to every interpreter that a run comes by. -/
theorem Passage.reaches {start interpreter : Interpreter} {rounds dispatched : Nat}
    (passage : Passage policy first moments (running 0 start))
    (reaches : Reaches start rounds dispatched interpreter) :
    ∃ moments, Passage policy first moments (running dispatched interpreter) := by
  induction reaches with
  | start => exact ⟨moments, passage⟩
  | performed reaches turned ih =>
      obtain ⟨through, passage⟩ := ih
      exact ⟨_, passage.snoc (.performed turned)⟩
  | returned reaches turned ih =>
      obtain ⟨through, passage⟩ := ih
      exact ⟨_, passage.snoc (.returned turned)⟩

/-- A passage leads through every run. -/
theorem Passage.run {start : Interpreter}
    (passage : Passage policy first moments (running 0 start)) :
    ∃ moments, Passage policy first moments (resting start.run.after) := by
  obtain ⟨rounds, steps, course⟩ := run_course start
  generalize start.run = outcome at course
  cases course with
  | stopped reaches turned =>
      obtain ⟨through, passage⟩ := passage.reaches reaches
      exact ⟨_, passage.snoc (.stopped turned)⟩
  | ended reaches turned =>
      obtain ⟨through, passage⟩ := passage.reaches reaches
      exact ⟨_, passage.snoc (.ended turned)⟩

/-- A passage leads through every operation. -/
theorem Passage.perform {before : Interpreter} {operation : Operation}
    (passage : Passage policy first moments (resting before))
    (permitted : policy before operation) :
    ∃ moments, Passage policy first moments (resting (operation.perform before)) := by
  rcases perform_happened before operation with rested | ⟨start, launch, same⟩
  · exact ⟨_, passage.snoc (.rested permitted rested)⟩
  · rw [same]
    exact (passage.snoc (.began permitted launch same)).run

/-- Every sequence of operations is a passage. -/
theorem Passage.performAll {before : Interpreter} {operations : List Operation}
    (passage : Passage policy first moments (resting before))
    (permitted : ∀ before, ∀ operation ∈ operations, policy before operation) :
    ∃ moments, Passage policy first moments (resting (Operation.performAll before operations)) := by
  induction operations generalizing moments before with
  | nil => exact ⟨moments, passage⟩
  | cons operation operations ih =>
      have next := permitted before operation (List.mem_cons_self ..)
      obtain ⟨through, passage⟩ := passage.perform next
      exact ih passage fun between other member =>
        permitted between other (List.mem_cons_of_mem _ member)

end Moment

end VisualNovel
