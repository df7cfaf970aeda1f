import VisualNovel.Proofs.Interpreter.Moments

/-!
# Calls and returns

A call pushes a frame, and what happens above this frame never changes it or those below. So a call
returns to the step behind it with the callers it had, however deep the calls between are nested,
unless the host makes the story forget its callers.
-/

namespace VisualNovel

variable {content : Content} {settings : StorySettings} {policy : Policy}

/-! ## What follows a moment -/

namespace Interpreter

variable {before after start : Interpreter} {operation : Operation}

theorem Supplied.fetchUnit_supplied (supplied : before.Supplied content) (id : String) :
    (before.fetchUnit id).2.Supplied content := by
  generalize fetched : before.fetchUnit id = result
  obtain ⟨result, after⟩ := result
  cases result with
  | error cause =>
      cases fetchUnit_error fetched
      exact supplied
  | ok story =>
      obtain ⟨units, known, rfl⟩ := fetchUnit_ok fetched
      exact (supplied.fetched known).2

theorem fetchUnit_position (before : Interpreter) (id : String) :
    (before.fetchUnit id).2.position = before.position := by
  obtain ⟨units, same⟩ := fetchUnit_units before id
  rw [same]
  rfl

theorem Supplied.rested (supplied : before.Supplied content)
    (rested : Rested before operation after) : after.Supplied content := by
  cases rested with
  | kept keeps => exact keeps.supplied supplied
  | loaded => exact supplied.fetchUnit_supplied _
  | reset =>
      exact { source := supplied.source, units := supplied.units, story := nofun }

/-- An interpreter that does not run stays where it is, or is reset. -/
theorem Rested.position (rested : Rested before operation after) :
    after.position = before.position ∨
      operation.startsOver = true ∧ after.position = ⟨none, 0, []⟩ := by
  cases rested with
  | kept keeps => exact .inl keeps.position
  | loaded => exact .inl (fetchUnit_position before _)
  | reset => exact .inr ⟨rfl, rfl⟩

/-- A host that jumps drops what is left to do of a step, and nothing else. -/
theorem Supplied.dropped (supplied : before.Supplied content) :
    Supplied content { before with continuations := [], restoring := false } :=
  { supplied with }

/-- A step that waits is left by a move. -/
theorem Supplied.leaves (supplied : before.Supplied content) (leaves : Leaves before start) :
    start.Supplied content ∧ Position.Move content before.position start.position := by
  cases leaves with
  | @forward front keeps =>
      have kept := keeps.supplied supplied
      refine ⟨{ kept with }, ?_⟩
      rw [← keeps.position]
      exact .forward
  | jumped keeps jumped =>
      have kept := keeps.supplied supplied
      exact ⟨(kept.jump jumped).1, keeps.position ▸ kept.jump_move jumped⟩

theorem Supplied.launch (supplied : before.Supplied content)
    (launch : Launch before operation start) : start.Supplied content := by
  cases launch with
  | left waits leaves => exact (supplied.leaves leaves).1
  | redirected jumped => exact (supplied.dropped.jump jumped).1
  | again halted => exact supplied
  | restarted startsOver fetched =>
      obtain ⟨units, known, rfl⟩ := fetchUnit_ok fetched
      refine (supplied.moved _ known ?_ ?_ ?_).2
      · rfl
      · rfl
      · rfl
  | resumed fetched =>
      obtain ⟨units, known, rfl⟩ := fetchUnit_ok fetched
      refine (supplied.moved _ known ?_ ?_ ?_).2
      · rfl
      · rfl
      · rfl

end Interpreter

open Interpreter

namespace Moment

variable {moment next first last : Moment} {moments : List Moment}

theorem Follows.supplied (follows : Follows policy moment next)
    (supplied : moment.interpreter.Supplied content) : next.interpreter.Supplied content := by
  cases follows with
  | performed turned => exact (supplied.round (turn_performed turned)).1
  | returned turned => exact (supplied.round (turn_returned turned)).1
  | stopped turned => exact (turn_stopped turned).2.keeps.supplied supplied
  | ended turned => exact (turn_ended turned).keeps.supplied supplied
  | began permitted launch same => exact supplied.launch launch
  | rested permitted rested => exact supplied.rested rested

/-- A round that ends a run leaves the story where it stands. -/
theorem resting_position {dispatched : Nat} {interpreter : Interpreter} {outcome : Outcome}
    (ending : Ending dispatched interpreter outcome) :
    (resting outcome.after).position = (running dispatched interpreter).position :=
  ending.keeps.position

/-- What follows moves the story, unless the host makes it forget its callers or gives it others. -/
theorem Follows.move (follows : Follows policy moment next)
    (supplied : moment.interpreter.Supplied content) :
    Position.Move content moment.position next.position ∨
      ∃ before operation, policy before operation ∧ (operation.resumes = true ∨
        operation.startsOver = true ∧ next.position.callStack = []) := by
  cases follows with
  | performed turned => exact .inl (supplied.round (turn_performed turned)).2
  | returned turned => exact .inl (supplied.round (turn_returned turned)).2
  | stopped turned =>
      rw [resting_position (turn_stopped turned).2]
      exact .inl .stay
  | ended turned =>
      rw [resting_position (turn_ended turned)]
      exact .inl .stay
  | @began before start operation permitted launch same =>
      cases launch with
      | left waits leaves => exact .inl (supplied.leaves leaves).2
      | redirected jumped => exact .inl (supplied.dropped.jump_move jumped)
      | again halted => exact .inl .stay
      | restarted startsOver fetched =>
          exact .inr ⟨before, operation, permitted, .inr ⟨startsOver, rfl⟩⟩
      | resumed fetched => exact .inr ⟨before, _, permitted, .inl rfl⟩
  | @rested before operation permitted rested =>
      rcases rested.position with same | ⟨startsOver, same⟩
      · left
        rw [show (resting (operation.perform before)).position = before.position from same]
        exact .stay
      · exact .inr ⟨before, operation, permitted, .inr ⟨startsOver, congrArg _ same⟩⟩

theorem Passage.supplied (passage : Passage policy first moments last)
    (supplied : first.interpreter.Supplied content) : last.interpreter.Supplied content :=
  passage.induction (fun moment => moment.interpreter.Supplied content)
    (fun holds follows => follows.supplied holds) supplied

theorem Passage.last_mem (passage : Passage policy first moments last) : last ∈ moments := by
  cases passage with
  | here => exact List.mem_singleton.2 rfl
  | snoc passage follows => exact List.mem_append_right _ (List.mem_singleton.2 rfl)

end Moment

/-! ## Calls that are under way -/

namespace Operation

theorem resumes_eq_false (operation : Operation) (startsOver : operation.startsOver = true) :
    operation.resumes = false := by
  cases operation <;> first | rfl | cases startsOver

end Operation

namespace Position

variable {position after : Position} {frame : CallFrame} {callers : List CallFrame}
variable {story : StoryUnit}

/-- A move above a frame stays above it, or returns to it. -/
theorem Move.under (move : Move content position after)
    (under : frame :: callers <:+ position.callStack)
    (loaded : content.unit? frame.unitId = some story) :
    frame :: callers <:+ after.callStack ∨ after = ⟨some story, frame.step, callers⟩ := by
  cases move with
  | stay => exact .inl under
  | forward => exact .inl under
  | label current label => exact .inl under
  | call calls =>
      obtain ⟨-, -, -, -, -, rfl⟩ := calls
      exact .inl (under.trans (List.suffix_cons ..))
  | back returns =>
      obtain ⟨top, rest, caller, stack, found, rfl⟩ := returns
      rw [stack] at under
      rcases List.suffix_cons_iff.1 under with same | below
      · cases same
        rw [loaded] at found
        cases found
        exact .inr rfl
      · exact .inl below

end Position

namespace Moment

variable {moment next first last : Moment} {moments : List Moment}

theorem Follows.keeping (follows : Follows Policy.keeping moment next)
    (supplied : moment.interpreter.Supplied content) :
    Position.Move content moment.position next.position := by
  rcases follows.move supplied with
    move | ⟨before, operation, ⟨stays, fresh⟩, resumes | ⟨startsOver, -⟩⟩
  · exact move
  · rw [fresh] at resumes
    cases resumes
  · rw [stays] at startsOver
    cases startsOver

/-- The moments of a call: the frame stays under all of them, or there is a first moment at which
it is returned to, with all callers. -/
def Nested (frame : CallFrame) (callers : List CallFrame) (caller : Position)
    (moments : List Moment) : Prop :=
  (∀ moment ∈ moments, frame :: callers <:+ moment.position.callStack) ∨
    ∃ during back later, moments = during ++ back :: later ∧
      (∀ moment ∈ during, frame :: callers <:+ moment.position.callStack) ∧
      back.position = caller

/-- A call is under way until it returns to its caller. -/
theorem Passage.nested {frame : CallFrame} {callers : List CallFrame} {story : StoryUnit}
    (passage : Passage Policy.keeping first moments last)
    (supplied : first.interpreter.Supplied content)
    (called : frame :: callers <:+ first.position.callStack)
    (loaded : content.unit? frame.unitId = some story) :
    Nested frame callers ⟨some story, frame.step, callers⟩ moments := by
  induction passage with
  | here =>
      left
      intro moment member
      rw [List.mem_singleton.1 member]
      exact called
  | @snoc moments last after passage follows ih =>
      rcases ih with under | ⟨during, back, later, split, under, returned⟩
      · have move := follows.keeping (passage.supplied supplied)
        rcases move.under (under last passage.last_mem) loaded with still | returned
        · left
          intro moment member
          rcases List.mem_append.1 member with earlier | new
          · exact under moment earlier
          · rw [List.mem_singleton.1 new]
            exact still
        · exact .inr ⟨moments, after, [], rfl, under, returned⟩
      · -- The call is over, and what follows it does not matter.
        refine .inr ⟨during, back, later ++ [after], ?_, under, returned⟩
        rw [split, List.append_assoc, List.cons_append]

/-! ## The discipline of calls -/

/-- What holds at a moment when no caller came from a snapshot. -/
structure Disciplined (content : Content) (moment : Moment) : Prop where
  /-- Every caller can be returned to. -/
  returnable : moment.position.Returnable content
  /-- What follows changes no frame below the one that it takes off. -/
  frames {next : Moment} : Follows Policy.keeping moment next →
    Position.Move content moment.position next.position
  /-- A host that starts over forgets all callers, or does not start. -/
  startsOver {next : Moment} : Follows Policy.startingOver moment next →
    next.position.callStack = [] ∨ Position.Move content moment.position next.position
  /-- A step that jumps to a unit calls it. -/
  calls {dispatched : Nat} {interpreter : Interpreter} {step : Step} {target : String}
    {callee : Position} : moment = running dispatched interpreter →
    interpreter.currentStep? = some step → step.kind = .goto target →
    dispatched < interpreter.settings.maxAutoSteps → moment.position.Calls content target callee →
    ∃ after, interpreter.turn dispatched = .performed after ∧ after.position = callee
  /-- A host or an action of a choice that jumps to a unit calls it. -/
  redirects {front : Interpreter} {target : String} {callee : Position} :
    Keeps moment.interpreter front → moment.position.Calls content target callee →
    ∃ after : Interpreter, front.redirect target = after.run ∧ after.position = callee
  /-- The end of a unit returns to the innermost caller. -/
  exhausted {dispatched : Nat} {interpreter : Interpreter} {story : StoryUnit} :
    moment = running dispatched interpreter → interpreter.story = some story →
    story.step? interpreter.step = none → interpreter.callStack ≠ [] →
    ∃ after, interpreter.turn dispatched = .returned after ∧
      moment.position.Returns content after.position
  /-- A step that returns, or ends the story, returns to the innermost caller. -/
  returns {dispatched : Nat} {interpreter : Interpreter} {step : Step} :
    moment = running dispatched interpreter → interpreter.currentStep? = some step →
    step.kind = .back ∨ step.kind = .finish → dispatched < interpreter.settings.maxAutoSteps →
    interpreter.callStack ≠ [] →
    ∃ after, interpreter.turn dispatched = .performed after ∧
      moment.position.Returns content after.position
  /-- A call returns to the step behind the jump, with the callers that were there before. -/
  nested {callee last : Moment} {moments : List Moment} {target : String} {frame : CallFrame} :
    Follows Policy.keeping moment callee →
    moment.position.Calls content target callee.position →
    callee.position.callStack = frame :: moment.position.callStack →
    Passage Policy.keeping callee moments last →
    Nested frame moment.position.callStack
      { moment.position with step := moment.position.step + 1 } moments

end Moment

namespace Interpreter

variable {interpreter after : Interpreter} {story : StoryUnit} {step : Step} {dispatched : Nat}

theorem turn_exhausted (current : interpreter.story = some story)
    (exhausted : story.step? interpreter.step = none)
    (returned : interpreter.returnToCaller = (.ok .jumped, after)) :
    interpreter.turn dispatched = .returned after := by
  simp only [turn, current, exhausted, returned]

theorem turn_jumped (found : interpreter.currentStep? = some step)
    (below : dispatched < interpreter.settings.maxAutoSteps)
    (jumped : interpreter.dispatch step = (.ok .jumped, after)) :
    interpreter.turn dispatched = .performed after := by
  rw [turn_step found below, jumped]
  rfl

/-- A step that jumps to a unit calls it. -/
theorem Supplied.turn_calls {target : String} {callee : Position}
    (supplied : interpreter.Supplied content) (found : interpreter.currentStep? = some step)
    (kind : step.kind = .goto target) (below : dispatched < interpreter.settings.maxAutoSteps)
    (calls : interpreter.position.Calls content target callee) :
    ∃ after, interpreter.turn dispatched = .performed after ∧ after.position = callee := by
  obtain ⟨after, jumped, position⟩ := supplied.jump_calls calls
  refine ⟨after, turn_jumped found below ?_, position⟩
  simp only [dispatch, kind]
  exact jumped

/-- A step that returns goes on at the innermost caller. -/
theorem Supplied.turn_returns {caller : Position} (supplied : interpreter.Supplied content)
    (found : interpreter.currentStep? = some step) (kind : step.kind = .back ∨ step.kind = .finish)
    (below : dispatched < interpreter.settings.maxAutoSteps)
    (returns : interpreter.position.Returns content caller) :
    ∃ after, interpreter.turn dispatched = .performed after ∧ after.position = caller := by
  rcases kind with kind | kind
  · obtain ⟨after, returned, position⟩ := supplied.returnToCaller_returns returns
    refine ⟨after, turn_jumped found below ?_, position⟩
    simp only [dispatch, kind]
    exact returned
  · have settled : Supplied content { interpreter with restoring := false } := { supplied with }
    obtain ⟨after, returned, position⟩ := settled.returnToCaller_returns returns
    refine ⟨after, turn_jumped found below ?_, position⟩
    simp only [dispatch, kind]
    exact returned

/-- A host or an action that jumps to a unit calls it. -/
theorem Supplied.redirect_calls {target : String} {callee : Position}
    (supplied : interpreter.Supplied content)
    (calls : interpreter.position.Calls content target callee) :
    ∃ after : Interpreter, interpreter.redirect target = after.run ∧ after.position = callee := by
  obtain ⟨after, jumped, position⟩ := supplied.jump_calls calls
  refine ⟨after, ?_, position⟩
  simp only [redirect]
  rw [jumped]

end Interpreter

namespace Moment

variable {moment first last : Moment} {moments : List Moment}

/-- What follows keeps callers that can be returned to, unless they come from a snapshot. -/
theorem Follows.returnable {next : Moment}
    (follows : Follows Policy.fresh moment next)
    (supplied : moment.interpreter.Supplied content)
    (returnable : moment.position.Returnable content) : next.position.Returnable content := by
  rcases follows.move supplied with move | ⟨before, operation, fresh, resumes | ⟨-, empty⟩⟩
  · exact returnable.move supplied.story move
  · rw [fresh] at resumes
    cases resumes
  · intro frame member
    rw [empty] at member
    cases member

theorem disciplined (supplied : moment.interpreter.Supplied content)
    (returnable : moment.position.Returnable content) : Disciplined content moment where
  returnable := returnable
  frames := by
    intro next follows
    exact follows.keeping supplied
  startsOver := by
    intro next follows
    rcases follows.move supplied with move | ⟨before, operation, startsOver, resumes | ⟨-, empty⟩⟩
    · exact .inr move
    · rw [operation.resumes_eq_false startsOver] at resumes
      cases resumes
    · exact .inl empty
  calls := by
    rintro dispatched interpreter step target callee rfl found kind below calls
    exact supplied.turn_calls found kind below calls
  redirects := by
    intro front target callee keeps calls
    rw [← show front.position = moment.position from keeps.position] at calls
    exact (keeps.supplied supplied).redirect_calls calls
  exhausted := by
    rintro dispatched interpreter story rfl current exhausted called
    obtain ⟨caller, returns⟩ := returnable.returns called
    obtain ⟨after, returned, rfl⟩ := supplied.returnToCaller_returns returns
    exact ⟨after, turn_exhausted current exhausted returned, returns⟩
  returns := by
    rintro dispatched interpreter step rfl found kind below called
    obtain ⟨caller, returns⟩ := returnable.returns called
    obtain ⟨after, turned, rfl⟩ := supplied.turn_returns found kind below returns
    exact ⟨after, turned, returns⟩
  nested := by
    intro callee last moments target frame follows calls stack passage
    obtain ⟨story, next, current, -, -, position⟩ := calls
    rw [position] at stack
    cases stack
    have under : ⟨story.id, moment.position.step + 1⟩ :: moment.position.callStack <:+
        callee.position.callStack := by
      simp only [position, List.suffix_rfl]
    have nested := passage.nested (follows.supplied supplied) under (supplied.story current)
    rw [← current] at nested
    exact nested

end Moment

/-- Calls return. At every moment behind one without callers, while no callers are taken from a
snapshot, a jump to a unit remembers the step behind it, the end of a unit, or a step that returns,
leads to the innermost caller and never fails, and a call returns with the callers it had. -/
theorem calls_return {past : List Moment} {first : Moment}
    (reached : Moment.Passage Policy.any (.resting (.new content settings)) past first)
    (empty : first.position.callStack = []) :
    (∀ before operations, first = .resting before →
        (∀ operation ∈ operations, Operation.resumes operation = false) →
        ∃ moments, Moment.Passage Policy.fresh first moments
          (.resting (Operation.performAll before operations))) ∧
      ∀ moments moment,
        Moment.Passage Policy.fresh first moments moment →
        Moment.Disciplined content moment := by
  have supplied : first.interpreter.Supplied content :=
    reached.supplied (new_sound content settings).supplied
  constructor
  · rintro before operations rfl fresh
    exact Moment.Passage.here.performAll fun before => fresh
  · intro moments moment passage
    have callable : first.position.Returnable content := by
      intro frame member
      rw [empty] at member
      cases member
    have holds : moment.interpreter.Supplied content ∧ moment.position.Returnable content :=
      passage.induction (fun moment =>
        moment.interpreter.Supplied content ∧ moment.position.Returnable content)
        (fun holds follows => ⟨follows.supplied holds.1, follows.returnable holds.1 holds.2⟩)
        ⟨supplied, callable⟩
    exact Moment.disciplined holds.1 holds.2

/-- Content with a unit that calls another one at its first step. -/
def caveContent : Content :=
  ((Library.empty.addUnit ⟨"start", [⟨none, .goto "cave"⟩,
    ⟨none, .dialogue ⟨none, "Back again.", none, []⟩⟩]⟩).addUnit
    ⟨"cave", [⟨none, .dialogue ⟨none, "It is dark.", none, []⟩⟩]⟩).toContent

/-- The new interpreter of the content. -/
def caveStart : Interpreter := .new caveContent .standard

/-- The cave is called from the first step, and left to the second one. -/
theorem calls_return_cave :
    ∃ moments, Moment.Passage Policy.fresh (.resting caveStart) moments
        (.resting (Operation.performAll caveStart [.start "start"])) ∧
      Moment.Disciplined caveContent
        (.resting (Operation.performAll caveStart [.start "start"])) ∧
      (Operation.performAll caveStart [.start "start"]).callStack = [⟨"start", 1⟩] ∧
      (Operation.performAll caveStart [.start "start", .advance]).place =
        (some "start", 1, []) := by
  have returns := calls_return
    (Moment.Passage.here : Moment.Passage Policy.any (.resting caveStart) _ _) rfl
  have fresh : ∀ operation ∈ [Operation.start "start"], operation.resumes = false := by
    intro operation member
    rw [List.mem_singleton.1 member]
    rfl
  obtain ⟨moments, passage⟩ := returns.1 caveStart [.start "start"] rfl fresh
  exact ⟨moments, passage, returns.2 _ _ passage, rfl, rfl⟩

end VisualNovel
