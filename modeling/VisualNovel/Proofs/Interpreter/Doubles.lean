import VisualNovel.Proofs.Interpreter.Calm
import VisualNovel.Proofs.Interpreter.Erasing
import VisualNovel.Proofs.Interpreter.Faces

/-!
# Doubles of a story

Two stories are doubles when they have one face at one moment, whatever was loaded before and whatever
a restore has left behind. What a host does to both of them keeps them doubles: they show the same,
and their timers are due at the same time.
-/

namespace VisualNovel.Interpreter

variable {content : Content} {settings : StorySettings} {now : Instant}
variable {heard : AudioRegistry → AudioRegistry → Prop}
variable {interpreter first second : Interpreter}

/-! ## Operations without the number of parts -/

theorem Supplied.withoutParts (supplied : interpreter.Supplied content) :
    interpreter.withoutParts.Supplied content :=
  { supplied with }

theorem withoutParts_redirect (fresh : interpreter.restoring = false) (target : String) :
    interpreter.withoutParts.redirect target = (interpreter.redirect target).withoutParts := by
  simp only [redirect]
  rw [withoutParts_jump]
  generalize jumped : interpreter.jump target = moved
  obtain ⟨result, after⟩ := moved
  cases result with
  | error cause => rfl
  | ok flow => exact withoutParts_run ((jump_moved jumped).1.fresh fresh)

theorem withoutParts_goto (interpreter : Interpreter) (target : String) :
    interpreter.withoutParts.goto target = (interpreter.goto target).withoutParts := by
  have story : interpreter.withoutParts.story = interpreter.story := rfl
  simp only [Interpreter.goto]
  rw [story]
  split
  · rfl
  · have fresh : Interpreter.restoring
      { interpreter with continuations := [], restoring := false } = false := rfl
    exact withoutParts_redirect fresh target

/-- The first step of a unit, with nothing on screen and nothing left to do. -/
def begun (interpreter : Interpreter) (story : StoryUnit) : Interpreter :=
  { interpreter.clearDisplay with
    callStack := [], continuations := [], restoring := false, story := some story, step := 0 }

theorem withoutParts_restart (interpreter : Interpreter) (unitId : Option String) :
    interpreter.withoutParts.restart unitId = (interpreter.restart unitId).withoutParts := by
  have current : interpreter.withoutParts.unitId? = interpreter.unitId? := rfl
  simp only [Interpreter.restart]
  rw [current, withoutParts_fetchUnit]
  generalize interpreter.fetchUnit _ = fetched
  obtain ⟨result, after⟩ := fetched
  cases result with
  | error cause => rfl
  | ok story =>
      have fresh : (after.begun story).restoring = false := rfl
      exact withoutParts_run fresh

theorem withoutParts_endStory (interpreter : Interpreter) :
    interpreter.withoutParts.endStory = interpreter.endStory.withoutParts :=
  withoutParts_complete { interpreter.clearDisplay with continuations := [] }

theorem withoutParts_loadEach (ids : List String) (interpreter : Interpreter) :
    loadEach ids interpreter.withoutParts =
      Prod.map id withoutParts (loadEach ids interpreter) := by
  induction ids generalizing interpreter with
  | nil => rfl
  | cons first ids ih =>
      have source : interpreter.withoutParts.content = interpreter.content := rfl
      simp only [loadEach]
      rw [source]
      split
      · rename_i data loaded
        have rest := ih { interpreter with
          state := interpreter.state.insertCharacter (.ofRecord first data) }
        simp only [withoutParts] at rest ⊢
        rw [rest]
        rfl
      · exact ih interpreter
      · rfl

theorem withoutParts_loadCharacters (interpreter : Interpreter) (ids : List String) :
    interpreter.withoutParts.loadCharacters ids =
      Prod.map id withoutParts (interpreter.loadCharacters ids) := by
  simp only [Interpreter.loadCharacters]
  rw [withoutParts_loadEach]
  generalize loadEach ids interpreter = loaded
  obtain ⟨result, after⟩ := loaded
  cases result <;> rfl

/-! ## Operations on stories with one face -/

namespace Resembles

variable {path text target : String} {value : Value} {character unitId : Option String}

theorem fetchUnit (resembles : Resembles heard first second)
    (supplied : first.Supplied content) (twin : second.Supplied content) (id : String) :
    ∃ result one two, first.fetchUnit id = (result, one) ∧ second.fetchUnit id = (result, two) ∧
      Resembles heard one two := by
  obtain ⟨result, shape, one, faced, fetched, same⟩ := supplied.face_fetchUnit id
  obtain ⟨other, form, two, refaced, refetched, alike⟩ := twin.face_fetchUnit id
  rw [resembles.face, faced] at refaced
  cases refaced
  have kept := fetchUnit_audio first id
  have left := fetchUnit_audio second id
  rw [fetched] at kept
  rw [refetched] at left
  refine ⟨result, one, two, fetched, refetched, alike.symm.trans same, ?_⟩
  rw [show one.audio = first.audio from kept, show two.audio = second.audio from left]
  exact resembles.heard

theorem redirect (resembles : Resembles heard first second) (supplied : first.Supplied content)
    (twin : second.Supplied content) (tunes : content.Tunes heard) (target : String) :
    EndsAlike heard (first.redirect target) (second.redirect target) := by
  have jumps : StepsAlike heard (first.jump target) (second.jump target) := by
    constructor
    · rw [← twin.face_jump, resembles.face, supplied.face_jump]
    · rw [jump_audio, jump_audio]
      exact resembles.heard
  obtain ⟨result, one, two, jumped, rejumped, after⟩ := jumps.split
  simp only [Interpreter.redirect]
  rw [jumped, rejumped]
  cases result with
  | error cause => exact after.haltAtStep cause
  | ok flow => exact after.run (supplied.jump jumped).1 (twin.jump rejumped).1 tunes

theorem goto (resembles : Resembles heard first second) (supplied : first.Supplied content)
    (twin : second.Supplied content) (tunes : content.Tunes heard) (target : String) :
    EndsAlike heard (first.goto target) (second.goto target) := by
  have absent := resembles.read (·.story.isNone) fun _ => rfl
  simp only [Interpreter.goto]
  rw [show second.story.isNone = first.story.isNone from absent]
  split
  · exact ⟨rfl, resembles⟩
  · have left : Resembles heard { first with continuations := [], restoring := false }
        { second with continuations := [], restoring := false } :=
      resembles.change
        (fun interpreter => { interpreter with continuations := [], restoring := false })
        (fun interpreter => face_face { interpreter with continuations := [], restoring := false })
        fun _ => rfl
    exact left.redirect { supplied with } { twin with } tunes target

theorem restart (resembles : Resembles heard first second) (supplied : first.Supplied content)
    (twin : second.Supplied content) (tunes : content.Tunes heard) (unitId : Option String) :
    EndsAlike heard (first.restart unitId) (second.restart unitId) := by
  have current := resembles.read Interpreter.unitId? fun _ => rfl
  obtain ⟨result, one, two, fetched, refetched, after⟩ :=
    resembles.fetchUnit supplied twin ((unitId.or first.unitId?).getD "start")
  simp only [Interpreter.restart]
  rw [current, fetched, refetched]
  cases result with
  | error cause => exact ⟨rfl, after⟩
  | ok story =>
      obtain ⟨units, known, rfl⟩ := fetchUnit_ok fetched
      obtain ⟨others, joined, rfl⟩ := fetchUnit_ok refetched
      have begins := after.change (·.begun story)
        (fun interpreter => face_face (interpreter.begun story)) fun _ => rfl
      obtain ⟨loaded, grown⟩ := supplied.fetched known
      obtain ⟨-, joined⟩ := twin.fetched joined
      exact begins.run (grown.enters loaded rfl rfl rfl) (joined.enters loaded rfl rfl rfl) tunes

theorem endStory (resembles : Resembles heard first second) :
    EndsAlike heard first.endStory second.endStory :=
  (resembles.change (fun interpreter => { interpreter.clearDisplay with continuations := [] })
    (fun interpreter => face_face { interpreter.clearDisplay with continuations := [] })
    fun _ => rfl).complete

theorem inject (resembles : Resembles heard first second) (character : Option String)
    (text : String) :
    Resembles heard (first.inject character text).after (second.inject character text).after := by
  apply resembles.change fun interpreter => (interpreter.inject character text).after
  · intro interpreter
    simp only [Interpreter.inject]
    rw [face_say]
    exact face_face (interpreter.inject character text).after
  · intro interpreter
    rfl

theorem write (resembles : Resembles heard first second) (path : String) (value : Value) :
    Resembles heard { first with state := (first.state.write path value).1 }
      { second with state := (second.state.write path value).1 } := by
  apply resembles.change fun interpreter =>
    { interpreter with state := (interpreter.state.write path value).1 }
  · intro interpreter
    have same := StateTree.bare_eq_iff.2
      (StateTree.write_contents path value (StateTree.SameContents.bare interpreter.state)).1
    simp only [Interpreter.face]
    rw [same, Option.map_map]
    rfl
  · intro interpreter
    rfl

theorem loadEach (resembles : Resembles heard first second) (ids : List String) :
    (Interpreter.loadEach ids second).1 = (Interpreter.loadEach ids first).1 ∧
      Resembles heard (Interpreter.loadEach ids first).2 (Interpreter.loadEach ids second).2 := by
  induction ids generalizing first second with
  | nil => exact ⟨rfl, resembles⟩
  | cons id ids ih =>
      have delivered : second.content.character id = first.content.character id :=
        congrArg (Content.character · id) (resembles.read Interpreter.content fun _ => rfl)
      simp only [Interpreter.loadEach]
      rw [delivered]
      split
      · rename_i data loaded
        have put := resembles.change
          (fun interpreter => { interpreter with
            state := interpreter.state.insertCharacter (.ofRecord id data) })
          (fun interpreter => face_face { interpreter with
            state := interpreter.state.insertCharacter (.ofRecord id data) })
          fun _ => rfl
        obtain ⟨result, after⟩ := ih put
        exact ⟨congrArg (Except.map (id :: ·)) result, after⟩
      · exact ih resembles
      · exact ⟨rfl, resembles⟩

theorem loadCharacters (resembles : Resembles heard first second) (ids : List String) :
    (second.loadCharacters ids).1 = (first.loadCharacters ids).1 ∧
      Resembles heard (first.loadCharacters ids).2 (second.loadCharacters ids).2 := by
  obtain ⟨same, after⟩ := resembles.loadEach ids
  simp only [Interpreter.loadCharacters]
  generalize Interpreter.loadEach ids first = one at same after
  generalize Interpreter.loadEach ids second = two at same after
  obtain ⟨result, one⟩ := one
  obtain ⟨other, two⟩ := two
  cases same
  cases result with
  | error cause => exact ⟨rfl, after⟩
  | ok loaded =>
      refine ⟨rfl, after.change
        (fun interpreter => interpreter.dropAbsent.emit (.charactersLoaded loaded)) ?_ fun _ => rfl⟩
      intro interpreter
      exact face_face (interpreter.dropAbsent.emit (.charactersLoaded loaded))

end Resembles

/-! ## Doubles -/

/-- Two stories of a content that have one face at one moment. -/
structure Doubles (content : Content) (settings : StorySettings)
    (heard : AudioRegistry → AudioRegistry → Prop) (now : Instant) (first second : Interpreter) :
    Prop where
  resembles : Resembles heard first.withoutParts second.withoutParts
  sound : first.Sound content settings
  twin : second.Sound content settings
  calm : first.Calm now
  still : second.Calm now

namespace Doubles

/-- Doubles stay doubles when an operation leads to one face at the same moment. -/
theorem perform (doubles : Doubles content settings heard now first second) (operation : Operation)
    (resembles : Resembles heard (operation.perform first).withoutParts
      (operation.perform second).withoutParts)
    (calm : (operation.perform first).Calm now) (still : (operation.perform second).Calm now) :
    Doubles content settings heard now (operation.perform first) (operation.perform second) :=
  ⟨resembles, doubles.sound.perform operation, doubles.twin.perform operation, calm, still⟩

variable (doubles : Doubles content settings heard now first second)
include doubles

theorem supplied_first : first.withoutParts.Supplied content :=
  doubles.sound.supplied.withoutParts

theorem supplied_second : second.withoutParts.Supplied content :=
  doubles.twin.supplied.withoutParts

theorem goto (tunes : content.Tunes heard) (target : String) :
    Doubles content settings heard now (first.goto target).after (second.goto target).after := by
  have ends := doubles.resembles.goto doubles.supplied_first doubles.supplied_second tunes target
  rw [withoutParts_goto, withoutParts_goto] at ends
  exact doubles.perform (.goto target) ends.after (doubles.calm.goto target)
    (doubles.still.goto target)

theorem restart (tunes : content.Tunes heard) (unitId : Option String) :
    (second.restart unitId).result = (first.restart unitId).result ∧
      Doubles content settings heard now (first.restart unitId).after
        (second.restart unitId).after := by
  have ends := doubles.resembles.restart doubles.supplied_first doubles.supplied_second tunes unitId
  rw [withoutParts_restart, withoutParts_restart] at ends
  exact ⟨ends.result, doubles.perform (.restart unitId) ends.after (doubles.calm.restart unitId)
    (doubles.still.restart unitId)⟩

theorem endStory :
    Doubles content settings heard now first.endStory.after second.endStory.after := by
  have ends := doubles.resembles.endStory
  rw [withoutParts_endStory, withoutParts_endStory] at ends
  exact doubles.perform .endStory ends.after doubles.calm.endStory doubles.still.endStory

theorem inject (character : Option String) (text : String) :
    Doubles content settings heard now (first.inject character text).after
      (second.inject character text).after :=
  doubles.perform (.inject character text) (doubles.resembles.inject character text)
    (doubles.calm.inject character text) (doubles.still.inject character text)

theorem write (path : String) (value : Value) :
    Doubles content settings heard now { first with state := (first.state.write path value).1 }
      { second with state := (second.state.write path value).1 } :=
  doubles.perform (.edit fun state => (state.write path value).1)
    (doubles.resembles.write path value)
    ⟨doubles.calm.fresh, doubles.calm.clock, doubles.calm.timer⟩
    ⟨doubles.still.fresh, doubles.still.clock, doubles.still.timer⟩

theorem loadCharacters (ids : List String) :
    (second.loadCharacters ids).1 = (first.loadCharacters ids).1 ∧
      Doubles content settings heard now (first.loadCharacters ids).2
        (second.loadCharacters ids).2 := by
  obtain ⟨result, after⟩ := doubles.resembles.loadCharacters ids
  rw [withoutParts_loadCharacters, withoutParts_loadCharacters] at result after
  exact ⟨result, doubles.perform (.loadCharacters ids) after (doubles.calm.loadCharacters ids)
    (doubles.still.loadCharacters ids)⟩

theorem contents : first.state.SameContents second.state :=
  StateTree.bare_eq_iff.1 (doubles.resembles.read (·.state.bare) fun _ => rfl)

/-- Doubles have one face but for the number of parts that a restore has left behind. -/
theorem face : second.face = { first.face with restoreParts := second.restoreParts } := by
  have faced := congrArg (fun shape : Interpreter => { shape with restoreParts :=
    second.restoreParts }) doubles.resembles.face
  exact faced

/-- The timers of doubles are due at the same time. -/
theorem deadline :
    second.timer.map TitleTimer.deadline = first.timer.map TitleTimer.deadline := by
  have base := doubles.resembles.read Interpreter.base fun _ => rfl
  have armed : second.timer.isSome = first.timer.isSome :=
    doubles.resembles.read (·.timer.isSome) fun _ => Option.isSome_map
  cases one : first.timer with
  | none =>
      rw [one] at armed
      rw [Option.isNone_iff_eq_none.1 (Option.isSome_eq_false_iff.1 armed)]
  | some timer =>
      rw [one] at armed
      obtain ⟨other, two⟩ := Option.isSome_iff_exists.1 armed
      obtain ⟨durationMs, shown, due⟩ := doubles.calm.timer timer one
      obtain ⟨lasting, visible, deadline⟩ := doubles.still.timer other two
      have same : second.base.status = first.base.status := congrArg Display.status base
      rw [shown, visible] at same
      cases same
      rw [two, Option.map_some, Option.map_some, due, deadline]

end Doubles

end VisualNovel.Interpreter
