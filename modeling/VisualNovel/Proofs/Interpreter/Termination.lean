import VisualNovel.Proofs.Interpreter.Rounds

/-!
# Every run ends

A run goes round by round until a round ends it. Neither the number of steps nor the depth of the
stack bounds the rounds alone: a return is not counted as a step, and a step may call a unit. Twice
the steps that are left and the frames of the stack bound them together, and so the fuel of a run is
never used up.
-/

namespace VisualNovel.Interpreter

variable {start interpreter after : Interpreter} {step : Step} {outcome : Outcome}
variable {rounds steps : Nat}

/-- The interpreters that a run comes by, with the rounds taken and the steps performed so far. -/
inductive Reaches (start : Interpreter) : (rounds steps : Nat) → Interpreter → Prop where
  | start : Reaches start 0 0 start
  | performed {rounds steps : Nat} {interpreter after : Interpreter} :
      Reaches start rounds steps interpreter → interpreter.turn steps = .performed after →
      Reaches start (rounds + 1) (steps + 1) after
  | returned {rounds steps : Nat} {interpreter after : Interpreter} :
      Reaches start rounds steps interpreter → interpreter.turn steps = .returned after →
      Reaches start (rounds + 1) steps after

/-- A run from its beginning to its end, with the rounds taken and the steps performed. -/
inductive Course (start : Interpreter) : (rounds steps : Nat) → Outcome → Prop where
  | stopped {rounds steps : Nat} {interpreter : Interpreter} {outcome : Outcome} :
      Reaches start rounds steps interpreter → interpreter.turn steps = .stopped outcome →
      Course start (rounds + 1) (steps + 1) outcome
  | ended {rounds steps : Nat} {interpreter : Interpreter} {outcome : Outcome} :
      Reaches start rounds steps interpreter → interpreter.turn steps = .ended outcome →
      Course start (rounds + 1) steps outcome

/-! ## The rounds of a run -/

/-- What a run keeps up to each of its rounds. -/
structure Progress (start : Interpreter) (rounds steps : Nat) (interpreter : Interpreter) :
    Prop where
  settings : interpreter.settings = start.settings
  within : steps ≤ start.settings.maxAutoSteps
  left : rounds + roundsLeft steps interpreter ≤ start.rounds

theorem Progress.round {next : Nat} (progress : Progress start rounds steps interpreter)
    (round : Round steps interpreter next after) (within : next ≤ start.settings.maxAutoSteps) :
    Progress start (rounds + 1) next after where
  settings := round.settings.trans progress.settings
  within := within
  left := by
    have fewer := round.roundsLeft_lt
    have left := progress.left
    omega

theorem Reaches.progress (reaches : Reaches start rounds steps interpreter) :
    Progress start rounds steps interpreter := by
  induction reaches with
  | start => exact ⟨rfl, Nat.zero_le _, Nat.le_of_eq (by simp [roundsLeft, Interpreter.rounds])⟩
  | performed reaches turned progress =>
      have round := turn_performed turned
      apply progress.round round
      rw [← progress.settings]
      exact round.below
  | returned reaches turned progress => exact progress.round (turn_returned turned) progress.within

/-- Fuel for some rounds is used up by them. -/
theorem Reaches.loop_add (reaches : Reaches start rounds steps interpreter) (fuel : Nat) :
    loop (fuel + rounds) 0 start = loop fuel steps interpreter := by
  induction reaches generalizing fuel with
  | start => rfl
  | performed reaches turned ih =>
      rw [← Nat.add_assoc, Nat.add_right_comm, ih]
      simp only [loop]
      rw [turned]
  | returned reaches turned ih =>
      rw [← Nat.add_assoc, Nat.add_right_comm, ih]
      simp only [loop]
      rw [turned]

/-! ## Whole runs -/

/-- A run takes at most two rounds for each step that is allowed, one for each frame of the stack,
and one more. -/
theorem Course.bounds (course : Course start rounds steps outcome) :
    steps ≤ start.settings.maxAutoSteps ∧ rounds ≤ start.rounds := by
  have fits : ∀ {rounds steps : Nat} {interpreter : Interpreter},
      Reaches start rounds steps interpreter → rounds + 1 ≤ start.rounds := by
    intro rounds steps interpreter reaches
    have left := reaches.progress.left
    simp only [roundsLeft] at left
    omega
  cases course with
  | stopped reaches turned =>
      refine ⟨?_, fits reaches⟩
      rw [← reaches.progress.settings]
      exact (turn_stopped turned).1
  | ended reaches turned => exact ⟨reaches.progress.within, fits reaches⟩

/-- A run has the outcome of its last round, whatever fuel is left. -/
theorem Course.loop_add (course : Course start rounds steps outcome) (fuel : Nat) :
    loop (fuel + rounds) 0 start = outcome := by
  cases course with
  | stopped reaches turned =>
      rw [← Nat.add_assoc, Nat.add_right_comm, reaches.loop_add]
      simp only [loop]
      rw [turned]
  | ended reaches turned =>
      rw [← Nat.add_assoc, Nat.add_right_comm, reaches.loop_add]
      simp only [loop]
      rw [turned]

theorem Course.run_eq (course : Course start rounds steps outcome) : start.run = outcome := by
  have same := course.loop_add (start.rounds - rounds)
  rw [Nat.sub_add_cancel course.bounds.2] at same
  exact same

/-- From every interpreter that a run comes by, the rounds that are left end the run. -/
theorem Reaches.course {fuel : Nat} (reaches : Reaches start rounds steps interpreter)
    (enough : roundsLeft steps interpreter ≤ fuel) :
    ∃ rounds steps outcome, Course start rounds steps outcome := by
  induction fuel generalizing rounds steps interpreter with
  | zero =>
      simp only [roundsLeft] at enough
      omega
  | succ fuel ih =>
      cases turned : interpreter.turn steps with
      | performed after =>
          have fewer := (turn_performed turned).roundsLeft_lt
          exact ih (reaches.performed turned) (by omega)
      | returned after =>
          have fewer := (turn_returned turned).roundsLeft_lt
          exact ih (reaches.returned turned) (by omega)
      | stopped outcome => exact ⟨_, _, _, .stopped reaches turned⟩
      | ended outcome => exact ⟨_, _, _, .ended reaches turned⟩

theorem run_course (start : Interpreter) : ∃ rounds steps, Course start rounds steps start.run := by
  have begins : Reaches start 0 0 start := .start
  obtain ⟨rounds, steps, outcome, course⟩ := begins.course (Nat.le_refl _)
  exact ⟨rounds, steps, course.run_eq ▸ course⟩

/-- What every round keeps, and every ending turns into a property of the outcome, shows that
property of a run. -/
theorem run_induction (kept : Nat → Interpreter → Prop) (ended : Outcome → Prop)
    (keeps : ∀ {dispatched interpreter next after}, kept dispatched interpreter →
      Round dispatched interpreter next after → kept next after)
    (ends : ∀ {dispatched interpreter outcome}, kept dispatched interpreter →
      Ending dispatched interpreter outcome → ended outcome)
    (interpreter : Interpreter) (holds : kept 0 interpreter) : ended interpreter.run := by
  have reached : ∀ {rounds steps : Nat} {after : Interpreter},
      Reaches interpreter rounds steps after → kept steps after := by
    intro rounds steps after reaches
    induction reaches with
    | start => exact holds
    | performed reaches turned ih => exact keeps ih (turn_performed turned)
    | returned reaches turned ih => exact keeps ih (turn_returned turned)
  obtain ⟨rounds, steps, course⟩ := run_course interpreter
  cases course with
  | stopped reaches turned => exact ends (reached reaches) (turn_stopped turned).2
  | ended reaches turned => exact ends (reached reaches) (turn_ended turned)

/-! ## The limit of steps -/

/-- An ending at the limit finds a step that is not performed any more. -/
theorem Ending.limit {limit : Nat} (ending : Ending steps interpreter outcome)
    (failed : outcome.result = .error (.stepLimit limit)) :
    limit = interpreter.settings.maxAutoSteps ∧ interpreter.settings.maxAutoSteps ≤ steps ∧
      interpreter.currentStep?.isSome = true := by
  cases ending with
  | completed finished => cases failed
  | limited found reached =>
      cases failed
      exact ⟨rfl, reached, Option.isSome_iff_exists.2 ⟨_, found⟩⟩
  | paused current found below pause => cases failed
  | failed same => cases failed

/-- A run fails at the limit of steps exactly when it has performed that many, and stands at
another. -/
theorem run_limited (start : Interpreter) (limit : Nat) :
    start.run.result = .error (.stepLimit limit) ↔
      limit = start.settings.maxAutoSteps ∧ ∃ rounds reached,
        Reaches start rounds start.settings.maxAutoSteps reached ∧
          reached.currentStep?.isSome = true := by
  constructor
  · intro failed
    obtain ⟨rounds, steps, course⟩ := run_course start
    generalize start.run = outcome at course failed
    cases course with
    | stopped reaches turned =>
        obtain ⟨below, ending⟩ := turn_stopped turned
        have reached := (ending.limit failed).2.1
        omega
    | @ended rounds steps reached outcome reaches turned =>
        obtain ⟨rfl, above, found⟩ := (turn_ended turned).limit failed
        have progress := reaches.progress
        rw [progress.settings] at above ⊢
        have all := Nat.le_antisymm progress.within above
        subst all
        exact ⟨rfl, rounds, reached, reaches, found⟩
  · rintro ⟨rfl, rounds, reached, reaches, found⟩
    obtain ⟨step, found⟩ := Option.isSome_iff_exists.1 found
    have settings := reaches.progress.settings
    have limited := turn_limited found (Nat.le_of_eq (congrArg StorySettings.maxAutoSteps settings))
    rw [(Course.ended reaches limited).run_eq]
    change Except.error (StoryError.stepLimit reached.settings.maxAutoSteps) = _
    rw [settings]

/-- Every run ends by itself: it performs no more steps than are allowed, in at most twice as many
rounds and one for each frame of the stack and one more, and it fails at the limit of steps exactly
when it has performed that many, and stands at another. -/
theorem run_ends (start : Interpreter) :
    (∃ rounds steps, Course start rounds steps start.run) ∧
      (∀ rounds steps outcome, Course start rounds steps outcome →
        outcome = start.run ∧ steps ≤ start.settings.maxAutoSteps ∧
          rounds ≤ 2 * start.settings.maxAutoSteps + start.callStack.length + 1) ∧
      ∀ limit, start.run.result = .error (.stepLimit limit) ↔
        limit = start.settings.maxAutoSteps ∧ ∃ rounds reached,
          Reaches start rounds start.settings.maxAutoSteps reached ∧
            reached.currentStep?.isSome = true := by
  refine ⟨run_course start, ?_, run_limited start⟩
  intro rounds steps outcome course
  obtain ⟨within, few⟩ := course.bounds
  exact ⟨course.run_eq.symm, within, few⟩

end VisualNovel.Interpreter
