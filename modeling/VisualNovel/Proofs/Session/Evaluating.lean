import VisualNovel.Proofs.Session.Operation

/-!
# Operations and the pass behind them

An operation of a session first changes the story, and the rules look at the state when it has
succeeded. An operation that fails after it changed the state leaves the change to the pass behind
the next one that succeeds.
-/

namespace VisualNovel

/-- How far an operation comes before the rules are evaluated, and whether they are. -/
structure Attempt where
  /-- The session in front of the rules. -/
  reached : Session
  /-- Whether the rules are evaluated if a pass is due. -/
  evaluates : Bool

namespace Session

/-- The session behind one pass of the rules. -/
def passed (session : Session) : Session :=
  let pass := session.rules.evaluateAt session.stage session.interpreter.clock
  { session with
    rules := pass.1
    stage := pass.2.1
    evaluated := some pass.2.1.interpreter.state.revision }

/-- An operation of the interpreter, without the pass behind it. -/
def attempted (session : Session) (operation : Interpreter → Outcome) : Attempt :=
  let outcome := operation session.interpreter
  ⟨session.withInterpreter outcome.after, outcome.result.isOk⟩

/-- A start, without the pass behind it. -/
def attemptedStart (session : Session) (id : Option String) : Attempt :=
  match session.prepare with
  | (.error _, after) => ⟨after, false⟩
  | (.ok _, after) => after.attempted (·.start (id.getD session.configuration.startUnit))

/-- A restore, without the pass behind it. -/
def attemptedRestore (session : Session) (game : SaveRecord) : Attempt :=
  let readied := { session with
    rules := session.rules.reset, stage := session.stage.withoutNotifications }
  let restored := readied.codec.restore game readied.interpreter
  let after := { readied.withInterpreter restored.interpreter with codec := restored.codec }
  match restored.result with
  | .error _ => ⟨after, false⟩
  | .ok _ => ⟨{ after with evaluated := none }, true⟩

/-- A load, without the pass behind it. -/
def attemptedLoad (session : Session) (slot : Nat) : Attempt :=
  match session.slots.read slot with
  | .error _ => ⟨session, false⟩
  | .ok file =>
    match session.prepare with
    | (.error _, after) => ⟨after, false⟩
    | (.ok _, after) => after.attemptedRestore file.game

end Session

namespace Attempt

/-- The session behind an attempt, with the pass when one takes place. -/
def settled (attempt : Attempt) : Session :=
  if attempt.evaluates then attempt.reached.evaluateRules else attempt.reached

end Attempt

namespace SessionOperation

/-- An operation without the pass behind it. -/
def attempt (session : Session) : SessionOperation → Attempt
  | start id => session.attemptedStart id
  | newGame => session.cleared.attemptedStart none
  | advance => session.attempted Interpreter.advance
  | select index => session.attempted (·.select index)
  | submitInput answer => session.attempted (·.submitInput answer)
  | goto target => session.attempted (·.goto target)
  | retry => session.attempted Interpreter.retry
  | tick now => session.attempted (·.tick now)
  | acknowledgeEffect => session.attempted Interpreter.acknowledgeEffect
  | moveTo location =>
      ⟨{ session with stage := { session.stage with location }, evaluated := none }, true⟩
  | load slot => session.attemptedLoad slot
  | other => ⟨other.perform session, false⟩

/-- What an operation returns that plays the story on or moves the player. -/
def played? (session : Session) : SessionOperation → Option SessionOutcome
  | start id => some (session.start id)
  | advance => some session.advance
  | select index => some (session.select index)
  | submitInput answer => some (session.submitInput answer)
  | goto target => some (session.goto target)
  | retry => some session.retry
  | tick now => some (session.tick now)
  | acknowledgeEffect => some session.acknowledgeEffect
  | moveTo location =>
      some ⟨.ok (session.moveTo location).interpreter.status, session.moveTo location⟩
  | _ => none

end SessionOperation

namespace Session

variable {session : Session}

/-! ## One pass at most -/

theorem evaluateRules_eq (session : Session) :
    session.evaluateRules = if session.isPassDue then session.passed else session := rfl

/-- Whether the engine has seen the state. -/
def HasSeen (session : Session) : Prop :=
  session.evaluated = some session.interpreter.state.revision

instance (session : Session) : Decidable session.HasSeen :=
  inferInstanceAs (Decidable (session.evaluated = some session.interpreter.state.revision))

theorem isPassDue_iff (running : session.rules.running = true) :
    session.isPassDue = true ↔ ¬ session.HasSeen := by
  simp only [isPassDue, HasSeen]
  rw [running, Bool.true_and, decide_eq_true_iff]

/-- Behind an evaluation, a running engine has seen the state. -/
theorem evaluateRules_seen (running : session.rules.running = true) :
    session.evaluateRules.HasSeen := by
  rw [evaluateRules_eq]
  split
  · rfl
  · rename_i resting
    exact Decidable.not_not.1 fun unseen => resting ((isPassDue_iff running).2 unseen)

/-! ## What an operation does in front of the pass -/

theorem perform_settled (session : Session) (operation : Interpreter → Outcome) :
    (session.perform operation).after = (session.attempted operation).settled ∧
      (session.perform operation).result.isOk = (session.attempted operation).evaluates := by
  simp only [Session.perform, attempted]
  cases (operation session.interpreter).result <;> exact ⟨rfl, rfl⟩

theorem start_settled (session : Session) (id : Option String) :
    (session.start id).after = (session.attemptedStart id).settled ∧
      (session.start id).result.isOk = (session.attemptedStart id).evaluates := by
  simp only [Session.start, attemptedStart]
  generalize session.prepare = prepared
  obtain ⟨result, after⟩ := prepared
  cases result with
  | error error => exact ⟨rfl, rfl⟩
  | ok => exact perform_settled after _

theorem restore_settled (session : Session) (game : SaveRecord) :
    (session.restore game).after = (session.attemptedRestore game).settled := by
  simp only [Session.restore, attemptedRestore]
  generalize SaveCodec.restore _ game _ = restored
  cases restored.result <;> rfl

theorem load_settled (session : Session) (slot : Nat) :
    (session.load slot).after = (session.attemptedLoad slot).settled := by
  simp only [Session.load, attemptedLoad]
  cases session.slots.read slot with
  | error cause => rfl
  | ok file =>
      dsimp only
      generalize session.prepare = prepared
      obtain ⟨result, after⟩ := prepared
      cases result with
      | error error => rfl
      | ok => exact restore_settled after file.game

/-- Every operation is an attempt and at most one pass behind it. -/
theorem perform_attempt (session : Session) (operation : SessionOperation) :
    operation.perform session = (operation.attempt session).settled := by
  cases operation with
  | start id => exact (start_settled session id).1
  | newGame => exact (start_settled session.cleared none).1
  | load slot => exact load_settled session slot
  | advance => exact (perform_settled session _).1
  | select index => exact (perform_settled session _).1
  | submitInput answer => exact (perform_settled session _).1
  | goto target => exact (perform_settled session _).1
  | retry => exact (perform_settled session _).1
  | tick now => exact (perform_settled session _).1
  | acknowledgeEffect => exact (perform_settled session _).1
  | _ => rfl

/-- An operation that plays on is an attempt, and its rules are evaluated when it succeeds. -/
theorem played?_attempt {operation : SessionOperation} {outcome : SessionOutcome}
    (played : operation.played? session = some outcome) :
    outcome.after = (operation.attempt session).settled ∧
      outcome.result.isOk = (operation.attempt session).evaluates := by
  cases operation with
  | start id =>
      cases played
      exact start_settled session id
  | moveTo location =>
      cases played
      exact ⟨rfl, rfl⟩
  | advance | select | submitInput | goto | retry | tick | acknowledgeEffect =>
      cases played
      exact perform_settled session _
  | _ => cases played

/-- Bringing the roster into play leaves a running engine and what it has seen alone. -/
theorem prepare_running (running : session.rules.running = true) :
    session.prepare.2.rules = session.rules ∧ session.prepare.2.evaluated = session.evaluated := by
  have started : session.rules.start = session.rules := by
    simp only [RuleEngine.start]
    rw [← running]
  have captured : ∀ interpreter, (session.withInterpreter interpreter).captured.rules =
      session.rules := by
    intro interpreter
    change (if session.configuration.rulesEnabled then session.rules.start else session.rules) = _
    rw [started, ite_self]
  simp only [Session.prepare]
  split
  · exact ⟨captured session.interpreter, rfl⟩
  · split
    · exact ⟨rfl, rfl⟩
    · exact ⟨captured _, rfl⟩

/-- In front of the pass, the engine is as it was before the operation. Only moving the player makes
it forget what it has seen. -/
theorem attempt_running {operation : SessionOperation} {outcome : SessionOutcome}
    (running : session.rules.running = true)
    (played : operation.played? session = some outcome) :
    (operation.attempt session).reached.rules = session.rules ∧
      ((operation.attempt session).reached.evaluated = session.evaluated ∨
        (operation.attempt session).evaluates = true ∧
          (operation.attempt session).reached.evaluated = none) := by
  cases operation with
  | start id =>
      obtain ⟨rules, evaluated⟩ := prepare_running running
      simp only [SessionOperation.attempt, attemptedStart]
      split
      · rename_i error after failed
        rw [failed] at rules evaluated
        exact ⟨rules, .inl evaluated⟩
      · rename_i after prepared
        rw [prepared] at rules evaluated
        exact ⟨rules, .inl evaluated⟩
  | moveTo location => exact ⟨rfl, .inr ⟨rfl, rfl⟩⟩
  | advance | select | submitInput | goto | retry | tick | acknowledgeEffect =>
      exact ⟨rfl, .inl rfl⟩
  | _ => cases played

/-- A session with a running engine plays on. When the operation succeeds, exactly one pass takes
place on the state it leads to, unless the engine has seen this state, and behind it the engine has
seen the state. When it fails, no pass takes place, and the engine has seen what it had seen before.
So a change of a state that was seen is followed by a pass exactly when the operation succeeds. -/
theorem playing_evaluates (session : Session) (operation : SessionOperation)
    (outcome : SessionOutcome) (running : session.rules.running = true)
    (played : operation.played? session = some outcome) :
    let reached := (operation.attempt session).reached
    (outcome.result.isOk = true → outcome.after.HasSeen ∧
      (reached.HasSeen → outcome.after = reached) ∧
      (¬ reached.HasSeen → outcome.after = reached.passed)) ∧
    (outcome.result.isOk = false → outcome.after = reached ∧ reached.rules = session.rules ∧
      reached.evaluated = session.evaluated) ∧
    (session.HasSeen →
      reached.interpreter.state.revision ≠ session.interpreter.state.revision →
      (outcome.after.HasSeen ↔ outcome.result.isOk = true) ∧
        (outcome.result.isOk = true → outcome.after = reached.passed)) := by
  intro reached
  obtain ⟨after, evaluates⟩ := played?_attempt played
  obtain ⟨rules, remembered⟩ := attempt_running running played
  have runs : reached.rules.running = true := by
    rw [rules]
    exact running
  rw [after, evaluates]
  simp only [Attempt.settled]
  cases succeeds : (operation.attempt session).evaluates with
  | false =>
      have kept : reached.evaluated = session.evaluated := by
        rcases remembered with same | ⟨evaluated, -⟩
        · exact same
        · rw [succeeds] at evaluated
          cases evaluated
      refine ⟨fun ok => (Bool.false_ne_true ok).elim, fun _ => ⟨rfl, rules, kept⟩, ?_⟩
      intro seen moved
      refine ⟨⟨?_, fun ok => (Bool.false_ne_true ok).elim⟩, fun ok => (Bool.false_ne_true ok).elim⟩
      intro present
      have known : reached.evaluated = some reached.interpreter.state.revision := present
      rw [kept, seen] at known
      exact absurd (Option.some.inj known).symm moved
  | true =>
      have seen : reached.evaluateRules.HasSeen := evaluateRules_seen runs
      have passes : ¬ reached.HasSeen → reached.evaluateRules = reached.passed := by
        intro unseen
        rw [evaluateRules_eq, if_pos ((isPassDue_iff runs).2 unseen)]
      refine ⟨fun _ => ⟨seen, ?_, passes⟩, fun failed => (Bool.false_ne_true failed.symm).elim, ?_⟩
      · intro known
        change reached.evaluateRules = reached
        rw [evaluateRules_eq, if_neg fun due => (isPassDue_iff runs).1 due known]
      · intro known moved
        have unseen : ¬ reached.HasSeen := by
          intro present
          rcases remembered with same | ⟨-, forgot⟩
          · have kept : reached.evaluated = session.evaluated := same
            rw [HasSeen, kept, known] at present
            exact moved (Option.some.inj present).symm
          · have none : reached.evaluated = none := forgot
            rw [HasSeen, none] at present
            cases present
        exact ⟨⟨fun _ => rfl, fun _ => seen⟩, fun _ => passes unseen⟩

/-- A rule that waits for a door to be open. -/
def doorRule : Rule Stage :=
  { Rule.new "door" with
    mode := .onChange
    conditions := [⟨.variable "global.door" (some .eq) (.text "open"), false⟩]
    actions := [.notification ⟨"The door is open.", .info, none⟩] }

/-- A unit that opens the door, and leads to a scene that does not exist or else to a line. -/
def doorContent : Content :=
  (Library.empty.addUnit ⟨"start", [⟨none, .dialogue ⟨none, "A door.", none, []⟩⟩,
    ⟨none, .assign "global.door = open"⟩, ⟨none, .scene (some "hall")⟩,
    ⟨none, .dialogue ⟨none, "It is open.", none, []⟩⟩]⟩).toContent

/-- The session in front of the door. -/
def doorSession : Session :=
  SessionOperation.performAll
    (.new doorContent (.memory .empty) { Configuration.standard with roster := [] })
    [.registerRules [doorRule] (Rule.tame_of_notification rfl rfl),
      .start none]

/-- The advance opens the door and fails behind it. The rule would fire, but no pass takes place. -/
theorem playing_evaluates_door :
    doorSession.rules.running = true ∧ doorSession.HasSeen ∧
      (SessionOperation.played? doorSession .advance) = some doorSession.advance ∧
      doorSession.advance.result.isOk = false ∧ ¬ doorSession.advance.after.HasSeen ∧
      doorSession.advance.after.rules = doorSession.rules ∧
      (doorSession.advance.after.rules.evaluateAt doorSession.advance.after.stage 0).2.2 =
        ["door"] := by
  have fails : doorSession.advance.result.isOk = false := by decide +kernel
  have moved : doorSession.advance.after.interpreter.state.revision ≠
      doorSession.interpreter.state.revision := by decide +kernel
  obtain ⟨-, missed, changed⟩ :=
    playing_evaluates doorSession .advance doorSession.advance rfl rfl
  obtain ⟨same, rules, -⟩ := missed fails
  obtain ⟨seen, -⟩ := changed rfl moved
  refine ⟨rfl, rfl, rfl, fails, ?_, ?_, by decide +kernel⟩
  · intro present
    rw [seen.1 present] at fails
    cases fails
  · rw [same, rules]

end Session

end VisualNovel
