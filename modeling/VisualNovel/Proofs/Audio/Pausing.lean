import VisualNovel.Audio

/-!
# Pauses that are answered

A player that a host may pause tells the host of every pause, and of a resume when a pause is in
effect. What ends a pause without telling so leaves a host behind that was told to pause and is never
told to go on. So a pause that is still in effect for the host is answered by the next resume exactly
when nothing of that kind came behind it.
-/

namespace VisualNovel

/-! ## Players that can be paused -/

/-- A player with a pause, and what its host is told. -/
structure Deck (State Action Signal : Type) where
  /-- The player behind an action. -/
  perform : State → Action → State
  /-- What an action tells the host. -/
  tells : State → Action → List Signal
  /-- Whether the player takes a pause to be in effect. -/
  paused : State → Bool
  /-- The action that pauses. -/
  pause : Action
  /-- The action that resumes. -/
  resume : Action
  /-- What the host is told by a pause. -/
  pausing : Signal
  /-- What the host is told by a resume. -/
  resuming : Signal
  /-- Whether an action ends a pause without telling the host. -/
  Silences : State → Action → Prop

namespace Deck

variable {State Action Signal : Type} {deck : Deck State Action Signal} {kept : State → Prop}
variable {state : State} {actions : List Action}

/-- The player behind actions that are performed one after another. -/
def performAll (deck : Deck State Action Signal) (state : State) (actions : List Action) : State :=
  actions.foldl deck.perform state

/-- All that the host is told by the actions. -/
def told (deck : Deck State Action Signal) : State → List Action → List Signal
  | _, [] => []
  | state, action :: actions =>
    deck.tells state action ++ deck.told (deck.perform state action) actions

/-- The host was told to pause, and was not told to go on since. -/
def Pending (deck : Deck State Action Signal) (state : State) (actions : List Action) : Prop :=
  (deck.told state actions).getLast? = some deck.pausing

/-- A resume tells the host to go on. -/
def Answers (deck : Deck State Action Signal) (state : State) : Prop :=
  deck.tells state deck.resume = [deck.resuming]

instance [DecidableEq Signal] : Decidable (deck.Pending state actions) :=
  inferInstanceAs (Decidable (_ = _))

instance [DecidableEq Signal] : Decidable (deck.Answers state) :=
  inferInstanceAs (Decidable (_ = _))

/-- None of the actions ends a pause without telling the host. -/
def Loud (deck : Deck State Action Signal) : State → List Action → Prop
  | _, [] => True
  | state, action :: actions =>
    ¬deck.Silences state action ∧ deck.Loud (deck.perform state action) actions

/-- There was a pause, and nothing behind it ends a pause without telling the host. -/
def Stands (deck : Deck State Action Signal) (state : State) (actions : List Action) : Prop :=
  ∃ earlier later, actions = earlier ++ deck.pause :: later ∧
    deck.Loud (deck.perform (deck.performAll state earlier) deck.pause) later

/-- The actions of a player in certain states do to the pause what they are said to do. -/
structure Lawful (deck : Deck State Action Signal) (kept : State → Prop) : Prop where
  keeps : ∀ {state} action, kept state → kept (deck.perform state action)
  paused_pause : ∀ state, deck.paused (deck.perform state deck.pause) = true
  tells_pause : ∀ {state}, kept state → deck.tells state deck.pause = [deck.pausing]
  paused_resume : ∀ state, deck.paused (deck.perform state deck.resume) = false
  tells_resume : ∀ {state}, kept state →
    deck.tells state deck.resume = if deck.paused state then [deck.resuming] else []
  paused_other : ∀ {state action}, action ≠ deck.pause → action ≠ deck.resume →
    (deck.paused (deck.perform state action) = true ↔
      deck.paused state = true ∧ ¬deck.Silences state action)
  tells_other : ∀ {state action}, action ≠ deck.pause → action ≠ deck.resume →
    deck.tells state action = []
  distinct : deck.pausing ≠ deck.resuming

theorem performAll_append (state : State) (first second : List Action) :
    deck.performAll state (first ++ second) =
      deck.performAll (deck.performAll state first) second :=
  List.foldl_append

theorem told_append (state : State) (first second : List Action) :
    deck.told state (first ++ second) =
      deck.told state first ++ deck.told (deck.performAll state first) second := by
  induction first generalizing state with
  | nil => rfl
  | cons action first ih =>
      rw [List.cons_append, told, told, ih, List.append_assoc]
      rfl

theorem Lawful.keepsAll (lawful : deck.Lawful kept) (holds : kept state) (actions : List Action) :
    kept (deck.performAll state actions) := by
  induction actions generalizing state with
  | nil => exact holds
  | cons action actions ih => exact ih (lawful.keeps action holds)

theorem Lawful.answers_iff_paused (lawful : deck.Lawful kept) (holds : kept state) :
    deck.Answers state ↔ deck.paused state = true := by
  rw [Answers, lawful.tells_resume holds]
  cases deck.paused state <;> simp

theorem Stands.cons {action : Action} (stands : deck.Stands (deck.perform state action) actions) :
    deck.Stands state (action :: actions) := by
  obtain ⟨earlier, later, rfl, loud⟩ := stands
  exact ⟨action :: earlier, later, rfl, loud⟩

/-- A pause that is in effect was called for by an action that nothing behind it undid, or was in
effect from the start. -/
theorem Lawful.stands_or_loud (lawful : deck.Lawful kept)
    (paused : deck.paused (deck.performAll state actions) = true) :
    deck.Stands state actions ∨ deck.paused state = true ∧ deck.Loud state actions := by
  induction actions generalizing state with
  | nil => exact .inr ⟨paused, trivial⟩
  | cons action actions ih =>
      obtain stands | ⟨before, loud⟩ := ih paused
      · exact .inl stands.cons
      · by_cases pauses : action = deck.pause
        · subst pauses
          exact .inl ⟨[], actions, rfl, loud⟩
        · by_cases resumes : action = deck.resume
          · rw [resumes, lawful.paused_resume] at before
            cases before
          · obtain ⟨paused, kept⟩ := (lawful.paused_other pauses resumes).1 before
            exact .inr ⟨paused, kept, loud⟩

/-- While nothing ends a pause without telling the host, the player takes a pause to be in effect
exactly when the host does. -/
theorem Lawful.paused_iff_told (lawful : deck.Lawful kept) (holds : kept state)
    (loud : deck.Loud state actions) {said : List Signal}
    (agree : deck.paused state = true ↔ said.getLast? = some deck.pausing) :
    deck.paused (deck.performAll state actions) = true ↔
      (said ++ deck.told state actions).getLast? = some deck.pausing := by
  induction actions generalizing state said with
  | nil =>
      rw [told, List.append_nil]
      exact agree
  | cons action actions ih =>
      obtain ⟨silent, loud⟩ := loud
      rw [told, ← List.append_assoc]
      apply ih (lawful.keeps action holds) loud
      by_cases pauses : action = deck.pause
      · rw [pauses, lawful.paused_pause, lawful.tells_pause holds]
        simp
      · by_cases resumes : action = deck.resume
        · rw [resumes, lawful.paused_resume, lawful.tells_resume holds]
          cases paused : deck.paused state with
          | true => simp [lawful.distinct.symm]
          | false => simpa [paused] using agree
        · rw [lawful.tells_other pauses resumes, List.append_nil,
            lawful.paused_other pauses resumes, and_iff_left silent]
          exact agree

/-- A pause that the host still follows is answered by the next resume exactly when nothing behind
it ended a pause without telling the host. -/
theorem Lawful.answers_iff (lawful : deck.Lawful kept) (holds : kept state)
    (idle : deck.paused state = false) (pending : deck.Pending state actions) :
    deck.Answers (deck.performAll state actions) ↔ deck.Stands state actions := by
  rw [lawful.answers_iff_paused (lawful.keepsAll holds actions)]
  constructor
  · intro paused
    obtain stands | ⟨before, -⟩ := lawful.stands_or_loud paused
    · exact stands
    · rw [idle] at before
      cases before
  · rintro ⟨earlier, later, rfl, loud⟩
    have sound := lawful.keepsAll holds earlier
    rw [Pending, told_append, told, ← List.append_assoc] at pending
    rw [performAll_append]
    apply (lawful.paused_iff_told (lawful.keeps deck.pause sound) loud _).2 pending
    rw [lawful.paused_pause, lawful.tells_pause sound]
    simp

end Deck

/-! ## Registries -/

/-- What can be done with a registry of streams. -/
inductive AudioOperation where
  | play (kind : StreamKind) (file : String) (looping : Option Bool) (id : Option String)
  | insert (stream : AudioStream)
  | stop (id : String)
  | stopAll
  | pauseAll
  | resumeAll
  | takeSignals

namespace AudioRegistry

/-- The registry behind an operation. -/
def perform (registry : AudioRegistry) : AudioOperation → AudioRegistry
  | .play kind file looping id => (registry.play kind file looping id).1
  | .insert stream => registry.insert stream
  | .stop id => registry.stop id
  | .stopAll => registry.stopAll
  | .pauseAll => registry.pauseAll
  | .resumeAll => registry.resumeAll
  | .takeSignals => registry.withoutSignals

/-- A registry tells its host the signals that an operation adds, and stopping every stream ends a
pause. -/
def deck : Deck AudioRegistry AudioOperation AudioSignal where
  perform := perform
  tells registry operation :=
    (registry.perform operation).signals.drop registry.signals.length
  paused := paused
  pause := .pauseAll
  resume := .resumeAll
  pausing := .pauseAll
  resuming := .resumeAll
  Silences _ operation := operation = .stopAll

@[simp] theorem play_paused (registry : AudioRegistry) (kind : StreamKind) (file : String)
    (looping : Option Bool) (id : Option String) :
    (registry.play kind file looping id).1.paused = registry.paused := by
  simp only [play]
  split <;> rfl

@[simp] theorem play_signals (registry : AudioRegistry) (kind : StreamKind) (file : String)
    (looping : Option Bool) (id : Option String) :
    (registry.play kind file looping id).1.signals = registry.signals := by
  simp only [play]
  split <;> rfl

@[simp] theorem resumeAll_paused (registry : AudioRegistry) :
    registry.resumeAll.paused = false := by
  simp only [resumeAll]
  split <;> simp_all

theorem resumeAll_signals (registry : AudioRegistry) :
    registry.resumeAll.signals =
      registry.signals ++ if registry.paused then [.resumeAll] else [] := by
  simp only [resumeAll]
  split <;> simp

theorem deck_lawful : deck.Lawful fun _ => True where
  keeps _ _ := trivial
  paused_pause _ := rfl
  tells_pause _ := List.drop_left
  paused_resume := resumeAll_paused
  tells_resume {registry} _ := by
    change registry.resumeAll.signals.drop registry.signals.length = _
    rw [resumeAll_signals, List.drop_left]
    rfl
  paused_other {registry operation} pauses resumes := by
    cases operation with
    | pauseAll => exact absurd rfl pauses
    | resumeAll => exact absurd rfl resumes
    | _ => simp [deck, perform, insert, stop, stopAll, withoutSignals]
  tells_other {registry operation} pauses resumes := by
    cases operation with
    | pauseAll => exact absurd rfl pauses
    | resumeAll => exact absurd rfl resumes
    | _ => simp [deck, perform, insert, stop, stopAll, withoutSignals]
  distinct := by decide

end AudioRegistry

end VisualNovel
