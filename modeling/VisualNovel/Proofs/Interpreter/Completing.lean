import VisualNovel.Proofs.Interpreter.Staying
import VisualNovel.Proofs.Interpreter.Timers

/-!
# The announcement of the end

A story that is over says so with an event. Whether it does is told by the status that the story had
before, and a run leaves the status alone until it ends. So a story that ended once and is started
or redirected again without a pause ends for a second time in silence. A story that is resumed
forgets the old status first, and always announces its end.
-/

namespace VisualNovel

/-- Whether the operation starts, redirects, repeats or resumes a story. -/
def Operation.setsOff : Operation → Bool
  | start _ => true
  | restart _ => true
  | goto _ => true
  | retry => true
  | resumeFrom _ => true
  | _ => false

namespace Interpreter

variable {interpreter before front after start : Interpreter} {step : Step}
variable {dispatched next : Nat} {outcome : Outcome}

/-- How the end of the story is announced: not at all when it was over before. -/
def announcement (interpreter : Interpreter) : List StoryEvent :=
  if interpreter.status = .completed then [] else [.completed]

/-- The end of the story is announced when it is reached, and nothing else is. -/
structure Announces (before : Interpreter) (outcome : Outcome) : Prop where
  ended : outcome.result = .ok .completed →
    outcome.after.events = before.events ++ before.announcement
  going : outcome.result ≠ .ok .completed → outcome.after.events = before.events

/-! ## Runs -/

theorem complete_announces (interpreter : Interpreter) :
    Announces interpreter interpreter.complete := by
  refine ⟨fun _ => ?_, fun other => absurd rfl other⟩
  simp only [complete, announcement]
  split
  · exact (List.append_nil _).symm
  · rfl

/-- What fails or pauses with the events it found announces nothing. -/
theorem Announces.quiet (events : outcome.after.events = before.events)
    (other : outcome.result ≠ .ok .completed) : Announces before outcome :=
  ⟨fun ended => absurd ended other, fun _ => events⟩

/-- A failure that finds the events as they were announces nothing. -/
theorem Announces.failed {cause : StoryError} (events : after.events = before.events) :
    Announces before ⟨.error cause, after⟩ :=
  .quiet events (fun ended => by cases ended)

/-- Silent changes in front of an outcome leave its announcement as it is. -/
theorem Announces.behind (announces : Announces front outcome) (silent : Silent before front)
    (status : front.status = before.status) : Announces before outcome where
  ended := by
    rw [← silent.events, show before.announcement = front.announcement by
      simp only [announcement, status]]
    exact announces.ended
  going := silent.events ▸ announces.going

theorem showTitles_events (interpreter : Interpreter) (card : Titles) :
    (interpreter.showTitles card).2.events = interpreter.events := by
  have silent := assignOptional_silent interpreter card.assignment
  simp only [showTitles]
  cases card.durationMs? with
  | none => exact silent.events
  | some durationMs => exact silent.events

/-- A step that pauses announces nothing, and is not the end. -/
theorem Pause.announces {status : Status} (pause : Pause interpreter step status after) :
    Announces interpreter (after.wait status) := by
  cases pause with
  | dialogue kind => exact .quiet (showDialogue_silent interpreter _).events nofun
  | titles kind fresh => exact .quiet (showTitles_events interpreter _) nofun
  | input kind => exact .quiet rfl nofun
  | choice kind => exact .quiet rfl nofun

theorem Ending.announces (ending : Ending dispatched interpreter outcome) :
    Announces interpreter outcome := by
  cases ending with
  | completed => exact complete_announces interpreter
  | limited => exact .failed rfl
  | paused current found below pause => exact pause.announces
  | failed same =>
      apply Announces.failed
      rcases same with rfl | rfl | rfl <;> rfl

/-- Rounds that do not end the run leave the status alone. -/
theorem Round.status (round : Round dispatched interpreter next after) :
    after.status = interpreter.status := by
  cases round with
  | returned current exhausted returned => exact (returnToCaller_moved returned).1.status
  | passed current found below effect => exact effect.backstage.status
  | jumped current found below jumped => exact (dispatch_moved jumped).1.status

/-- A run that reaches the end announces it, unless the story was over when it began. -/
theorem run_announces (start : Interpreter) : Announces start start.run := by
  -- The end looks at the status, so the rounds in front of it must have kept that of the start.
  apply run_induction (fun _ reached => Silent start reached ∧ reached.status = start.status)
  · rintro dispatched reached next after ⟨silent, status⟩ round
    exact ⟨silent.trans round.silent, round.status.trans status⟩
  · rintro dispatched reached outcome ⟨silent, status⟩ ending
    exact ending.announces.behind silent status
  · exact ⟨{}, rfl⟩

/-! ## Operations -/

/-- A run behind silent changes that leave the status alone. -/
theorem run_announces_behind (silent : Silent before start)
    (status : start.status = before.status) : Announces before start.run :=
  (run_announces start).behind silent status

theorem redirect_announces (interpreter : Interpreter) (target : String) :
    Announces interpreter (interpreter.redirect target) := by
  simp only [redirect]
  split
  · rename_i flow after jumped
    exact run_announces_behind (jump_silent jumped) (jump_moved jumped).1.status
  · rename_i cause after failed
    cases jump_error failed
    exact .failed rfl

theorem goto_announces (before : Interpreter) (target : String) :
    Announces before (before.goto target) := by
  simp only [goto]
  split
  · exact .failed rfl
  · exact (redirect_announces _ target).behind {} rfl

theorem restart_announces (before : Interpreter) (id : Option String) :
    Announces before (before.restart id) := by
  simp only [restart]
  split
  · rename_i cause after failed
    cases fetchUnit_error failed
    exact .failed rfl
  · rename_i story after fetched
    obtain ⟨units, -, rfl⟩ := fetchUnit_ok fetched
    exact run_announces_behind {} rfl

/-- A retry runs a halted story. On any other it does nothing. -/
theorem retry_announces (before : Interpreter) : Announces before before.retry := by
  simp only [retry]
  split
  · exact run_announces before
  · refine ⟨?_, fun _ => rfl⟩
    intro finished
    have finished : before.status = .completed := Except.ok.inj finished
    simp only [announcement]
    rw [if_pos finished]
    exact (List.append_nil _).symm

/-- A story that is resumed is not over when it runs. -/
theorem resumeFrom_announces (before : Interpreter) (snapshot : Snapshot) :
    ((before.resumeFrom snapshot).result = .ok .completed →
        (before.resumeFrom snapshot).after.events = before.events ++ [.completed]) ∧
      ((before.resumeFrom snapshot).result ≠ .ok .completed →
        (before.resumeFrom snapshot).after.events = before.events) := by
  cases fetched : before.fetchUnit snapshot.unitId with
  | mk result after =>
      cases result with
      | error cause =>
          simp only [resumeFrom]
          rw [fetched]
          cases fetchUnit_error fetched
          refine ⟨fun ended => ?_, fun _ => rfl⟩
          cases ended
      | ok story =>
          rw [resumeFrom_eq fetched]
          obtain ⟨units, -, rfl⟩ := fetchUnit_ok fetched
          have announces := run_announces ({ before with units }.placed story snapshot)
          exact ⟨announces.ended, announces.going⟩

/-- What starts, redirects or repeats a story announces its end unless it was over before. -/
theorem setsOff_announces {operation : Operation} (sets : operation.setsOff = true)
    (kept : operation.resumes = false) (ran : operation.outcome? before = some outcome) :
    Announces before outcome := by
  cases operation with
  | start id =>
      cases ran
      exact restart_announces before (some id)
  | restart id =>
      cases ran
      exact restart_announces before id
  | goto target =>
      cases ran
      exact goto_announces before target
  | retry =>
      cases ran
      exact retry_announces before
  | resumeFrom snapshot => cases kept
  | _ => cases sets

/-- An advance announces nothing in a story that is over, lines over it or not. -/
theorem advance_finished (finished : before.base.status = .completed) :
    before.advance.after.events = before.events := by
  simp only [advance]
  split
  · rfl
  · rename_i uncovered
    have bare : before.isInterrupted = false := by
      cases top : before.isInterrupted with
      | false => rfl
      | true =>
          obtain ⟨screen, status, left, stack⟩ := isInterrupted_eq_true top
          exact absurd stack (uncovered screen status left)
    rw [base_uncovered bare] at finished
    have finished : before.status = .completed := finished
    rw [finished]
    rfl

/-- What starts, redirects, repeats or resumes a story and comes to its end announces it once if the
story was not over before, or if it is resumed. But a story that was over before and is started,
restarted or redirected to its end again announces nothing, like a retry, which leaves it alone.
Nothing is announced in front of the end, and an advance in a story that is over announces
nothing. -/
theorem completed_announced (before : Interpreter) :
    (∀ (operation : Operation) (outcome : Outcome), operation.setsOff = true →
      operation.outcome? before = some outcome →
      (outcome.result = .ok .completed →
        (operation.resumes = true ∨ before.status ≠ .completed →
          outcome.after.events = before.events ++ [.completed]) ∧
        (operation.resumes = false → before.status = .completed →
          outcome.after.events = before.events)) ∧
      (outcome.result ≠ .ok .completed → outcome.after.events = before.events)) ∧
    (before.base.status = .completed → before.advance.after.events = before.events) := by
  refine ⟨fun operation outcome sets ran => ?_, advance_finished⟩
  cases resumed : operation.resumes with
  | true =>
      cases operation with
      | resumeFrom snapshot =>
          cases ran
          obtain ⟨ended, going⟩ := resumeFrom_announces before snapshot
          exact ⟨fun finished => ⟨fun _ => ended finished, nofun⟩, going⟩
      | _ => cases resumed
  | false =>
      have announces := setsOff_announces sets resumed ran
      refine ⟨fun finished => ⟨?_, ?_⟩, announces.going⟩
      · rintro (restored | fresh)
        · cases restored
        · rw [announces.ended finished, announcement, if_neg fresh]
      · rintro - again
        rw [announces.ended finished, announcement, if_pos again, List.append_nil]

/-- Content whose only unit is over at once. -/
def briefContent : Content :=
  (Library.empty.addUnit ⟨"start", [⟨none, .finish⟩]⟩).toContent

/-- A story that was started and is over. -/
def briefStory : Interpreter :=
  Operation.performAll (.new briefContent .standard) [.start "start"]

/-- The first end is announced. Another start comes to the end again in silence, and a resumption
announces it. -/
theorem completed_announced_brief :
    (Interpreter.new briefContent .standard).start "start" = ⟨.ok .completed, briefStory⟩ ∧
      briefStory.events = [.completed] ∧
      (briefStory.start "start").result = .ok .completed ∧
      (briefStory.start "start").after.events = [.completed] ∧
      (briefStory.resumeFrom ⟨"start", 0, [], [], none, none, [], none⟩).after.events =
        [.completed, .completed] ∧
      briefStory.advance.after.events = [.completed] := by
  obtain ⟨first, -⟩ := completed_announced (.new briefContent .standard)
  obtain ⟨again, waits⟩ := completed_announced briefStory
  have announced := ((first (.start "start") _ rfl rfl).1 rfl).1 (.inr nofun)
  have silent := ((again (.start "start") _ rfl rfl).1 rfl).2 rfl rfl
  have resumed := ((again (.resumeFrom ⟨"start", 0, [], [], none, none, [], none⟩) _ rfl rfl).1
    rfl).1 (.inl rfl)
  exact ⟨rfl, announced, rfl, silent, resumed, waits rfl⟩

end Interpreter

end VisualNovel
