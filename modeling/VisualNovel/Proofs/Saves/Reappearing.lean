import VisualNovel.Proofs.Interpreter.Snapshots
import VisualNovel.Proofs.Saves.Forgetting
import VisualNovel.Proofs.State.Naming

/-!
# Which characters reappear

A record names the characters on screen, and a restore shows those of them that are in play once the
characters are loaded. It loads what is in play, what has a baseline and what has changed fields. In
a fresh story with a fresh codec the first two are none, so of the characters on screen those alone
reappear that had changed.
-/

namespace VisualNovel

/-- Whether the content has a character. -/
def Content.provides (content : Content) (id : String) : Bool :=
  (content.character id).toOption.isSome

/-- Whether a character has changed fields. -/
def SaveCodec.changes (codec : SaveCodec) (state : StateTree) (id : String) : Bool :=
  (Dict.get? (codec.deltas state) id).isSome

namespace Interpreter

variable {content : Content} {settings : StorySettings} {interpreter : Interpreter}

/-- Where all characters were loaded, each of them exists or is known not to. -/
theorem loadEach_proper {ids loaded : List String} (source : interpreter.content = content)
    (succeeds : (loadEach ids interpreter).1 = .ok loaded) :
    ∀ id ∈ ids, content.HasProperCharacter id := by
  induction ids generalizing interpreter loaded with
  | nil =>
      intro id absent
      cases absent
  | cons first ids ih =>
      cases delivered : content.character first with
      | ok data =>
          have same : (interpreter.withRecord first data).content = content := source
          rw [loadEach_cons (source ▸ delivered)] at succeeds
          cases rest : (loadEach ids (interpreter.withRecord first data)).1 with
          | error cause =>
              rw [rest] at succeeds
              cases succeeds
          | ok others =>
              intro id member
              rcases List.mem_cons.1 member with rfl | later
              · intro cause failed
                rw [delivered] at failed
                cases failed
              · exact ih same rest id later
      | error cause =>
          rw [loadEach, source, delivered] at succeeds
          cases cause with
          | notFound kind name =>
              intro id member
              rcases List.mem_cons.1 member with rfl | later
              · intro cause failed
                rw [delivered] at failed
                cases failed
                exact ⟨kind, name, rfl⟩
              · exact ih source succeeds id later
          | malformed kind name => cases succeeds
          | unreadable path cause => cases succeeds

/-- Characters that were loaded are in play if the content has them, and the others if they were so
before. -/
theorem loadCharacters_isSome {ids loaded : List String} {ready : Interpreter}
    (source : interpreter.content = content)
    (succeeds : interpreter.loadCharacters ids = (.ok loaded, ready)) (id : String) :
    (ready.state.character? id).isSome =
      ((ids.contains id && content.provides id) || (interpreter.state.character? id).isSome) := by
  have state := loadCharacters_state interpreter ids
  rw [succeeds] at state
  change ready.state = _ at state
  have each : ∃ loaded, (loadEach ids interpreter).1 = .ok loaded := by
    simp only [loadCharacters] at succeeds
    split at succeeds
    · cases succeeds
    · rename_i passed
      exact ⟨_, congrArg Prod.fst passed⟩
  obtain ⟨names, all⟩ := each
  obtain ⟨-, -, delivered⟩ := loadEach_delivered source (loadEach_proper source all)
  rw [state]
  by_cases member : id ∈ ids
  · rw [delivered id member, List.contains_iff_mem.2 member, Bool.true_and, Option.isSome_or,
      Option.isSome_map]
    rfl
  · have absent : ids.contains id = false := by
      rw [Bool.eq_false_iff]
      intro listed
      exact member (List.contains_iff_mem.1 listed)
    rw [loadEach_other member, absent]
    rfl

/-- A story that is resumed shows the characters of the snapshot that are in play. -/
theorem resumeFrom_shows {snapshot : Snapshot} {status : Status}
    (succeeds : (interpreter.resumeFrom snapshot).result = .ok status) :
    ∃ begun : Interpreter, interpreter.resumeFrom snapshot = begun.run ∧ begun.restoring = true ∧
      begun.visible = snapshot.visible.filter (fun id =>
        (interpreter.state.character? id).isSome) ∧
      begun.state = interpreter.state.touch := by
  cases fetched : interpreter.fetchUnit snapshot.unitId with
  | mk result after =>
      cases result with
      | error cause =>
          simp only [resumeFrom] at succeeds
          rw [fetched] at succeeds
          cases succeeds
      | ok story =>
          obtain ⟨units, -, rfl⟩ := fetchUnit_ok fetched
          exact ⟨_, resumeFrom_eq fetched, rfl, rfl, rfl⟩

/-- At a step that waits, a story that is resumed keeps to the characters it has begun with. -/
theorem Sound.resumeFrom_cast {limits : StorySettings} {other : Interpreter} {snapshot : Snapshot}
    {waiting : Status} (sound : interpreter.Sound content settings)
    (target : other.Sound content limits) (room : 0 < limits.maxAutoSteps)
    (waits : interpreter.pause? = some waiting) (unit : interpreter.unitId? = some snapshot.unitId)
    (step : snapshot.step = interpreter.step) :
    (other.resumeFrom snapshot).result = .ok waiting ∧
      (other.resumeFrom snapshot).after.visible =
        snapshot.visible.filter (fun id => (other.state.character? id).isSome) ∧
      (other.resumeFrom snapshot).after.state = other.state.touch := by
  obtain ⟨story, current, running, position, pauses⟩ := pause?_eq_some waits
  obtain ⟨source, delivered, named⟩ := sound.delivered running
  have same : snapshot.unitId = story.id := by
    simp only [unitId?] at unit
    rw [running] at unit
    exact (Option.some.inj unit).symm
  obtain ⟨units, screen, restoreParts, resumed⟩ := target.resumeFrom_suspended room delivered
    named same (step ▸ position) pauses
  rw [resumed]
  exact ⟨rfl, rfl, rfl⟩

end Interpreter

namespace SaveCodec

variable {content : Content} {settings limits : StorySettings} {codec used : SaveCodec}
variable {game : SaveRecord} {interpreter other : Interpreter} {status : Status}

/-- Laying a record over characters brings none into play. -/
theorem overlaid_isSome (game : SaveRecord) (state : StateTree) (id : String) :
    ((overlaid game state).character? id).isSome = (state.character? id).isSome := by
  rw [overlaid_eq]
  exact (layered_isSome _).trans (layered_isSome _)

/-- A restore that succeeds resumes the recorded position. In play are then the characters of the
roster that the content has, and those that were so before. -/
theorem restore_resumes (target : other.Sound content limits)
    (restored : (used.restore game other).result = .ok status) :
    ∃ ready : Interpreter, ready.Sound content limits ∧
      (used.restore game other).interpreter = (ready.resumeFrom (position game)).after ∧
      (ready.resumeFrom (position game)).result = .ok status ∧
      ∀ id, (ready.state.character? id).isSome =
        (((used.roster game other.state).contains id && content.provides id) ||
          (other.state.character? id).isSome) := by
  have restores := restore_restores used game other
  generalize used.restore game other = outcome at restored restores ⊢
  cases restores with
  | refused error state visible events => cases restored
  | @resumed ids ready loaded =>
      have sound := target.loadCharacters (used.roster game other.state)
      rw [loaded] at sound
      have edited : (laid game ready).Sound content limits :=
        sound.perform (.edit fun state => overlaid game state)
      refine ⟨laid game ready, edited, rfl, ?_, ?_⟩
      · cases result : ((laid game ready).resumeFrom (position game)).result with
        | error cause =>
            dsimp only at restored
            rw [result] at restored
            cases restored
        | ok reached =>
            dsimp only at restored
            rw [result] at restored
            cases restored
            rfl
      · intro id
        rw [← Interpreter.loadCharacters_isSome target.source loaded]
        exact overlaid_isSome game ready.state id

/-- The shown characters of a record are those on screen that are in play. -/
theorem recordOf_visible {state : StateTree} (listed : state.Listed) (snapshot : Snapshot) :
    (position (codec.recordOf state snapshot)).visible =
      snapshot.visible.filter fun id => (state.character? id).isSome := by
  change ((snapshot.visible.filterMap state.character?).map fun character =>
    VisibleCharacter.ofFields character.id character.fields).map VisibleCharacter.id = _
  induction snapshot.visible with
  | nil => rfl
  | cons id visible ih =>
      cases found : state.character? id with
      | none =>
          rw [List.filterMap_cons_none found, List.filter_cons_of_neg (by rw [found]; decide)]
          exact ih
      | some character =>
          have shown : (VisibleCharacter.ofFields character.id character.fields).id = id :=
            listed.named found
          rw [List.filterMap_cons_some found, List.filter_cons_of_pos (by rw [found]; rfl),
            List.map_cons, List.map_cons, ih, shown]

/-- A character has changed fields when it is in play with a baseline that it differs from. -/
theorem changes_iff {state : StateTree} (listed : state.Listed) (id : String) :
    codec.changes state id = true ↔ ∃ character baseline, state.character? id = some character ∧
      codec.baseline? id = some baseline ∧ changedFields baseline character.fields ≠ [] := by
  simp only [changes]
  rw [get?_deltas listed.sorted]
  constructor
  · intro appears
    obtain ⟨delta, appears⟩ := Option.isSome_iff_exists.1 appears
    obtain ⟨character, found, changed⟩ := Option.bind_eq_some_iff.1 appears
    obtain ⟨baseline, known, changed⟩ := Option.bind_eq_some_iff.1 changed
    refine ⟨character, baseline, found, known, ?_⟩
    intro unchanged
    rw [unchanged] at changed
    cases changed
  · intro ⟨character, baseline, found, known, differs⟩
    rw [found, Option.bind_some, delta?, known, Option.bind_some, if_neg]
    · rfl
    · intro unchanged
      exact differs (List.isEmpty_iff.1 unchanged)

/-- A fresh codec and a fresh story load the characters with changed fields alone. -/
theorem contains_roster_fresh (content : Content) (limits : StorySettings) (game : SaveRecord)
    (id : String) :
    (empty.roster game (Interpreter.new content limits).state).contains id =
      (Dict.get? game.deltas id).isSome := by
  rw [Bool.eq_iff_iff, List.contains_iff_mem, mem_roster]
  constructor
  · rintro (present | captured | changed)
    · cases present
    · cases captured
    · exact changed
  · intro changed
    exact .inr (.inr changed)

/-- Restored in a fresh story with a fresh codec, a scene keeps of its cast the characters whose
fields had changed from their baselines. The restore is a run that begins with the saved characters
on screen, in the saved order, less those that had no changed fields and those that the content has
no more; it has loaded precisely the characters with changed fields that the content has. A save at
a step that waits comes back to this step, and ends with this cast. -/
theorem restore_cast {operations : List Operation}
    (edits : ∀ operation ∈ operations, operation.EditsByOperation)
    (reached : interpreter = Operation.performAll (.new content settings) operations)
    (saved : codec.serialize interpreter = .ok game)
    (restored : (empty.restore game (.new content limits)).result = .ok status) :
    let after := (empty.restore game (.new content limits)).interpreter
    let kept := interpreter.visible.filter fun id =>
      codec.changes interpreter.state id && content.provides id
    (∀ id, codec.changes interpreter.state id = true ↔ ∃ character baseline,
        interpreter.state.character? id = some character ∧ codec.baseline? id = some baseline ∧
          changedFields baseline character.fields ≠ []) ∧
      (∃ begun : Interpreter, after = begun.run.after ∧ begun.restoring = true ∧
        begun.visible = kept ∧
        ∀ id, (begun.state.character? id).isSome =
          (codec.changes interpreter.state id && content.provides id)) ∧
      ∀ waiting, 0 < limits.maxAutoSteps → interpreter.pause? = some waiting →
        status = waiting ∧ after.visible = kept ∧
          ∀ id, (after.state.character? id).isSome =
            (codec.changes interpreter.state id && content.provides id) := by
  have listed : interpreter.state.Listed := by
    rw [reached]
    exact Interpreter.performAll_listed edits
  have sound : interpreter.Sound content settings := by
    rw [reached]
    exact Interpreter.performAll_sound content settings operations
  obtain ⟨snapshot, taken, record, -⟩ := serialize_ok saved
  obtain ⟨place, visible, -, -⟩ := Interpreter.snapshot_place taken
  obtain ⟨ready, target, resumes, succeeds, members⟩ :=
    restore_resumes (Interpreter.new_sound content limits) restored
  have present : ∀ id, (ready.state.character? id).isSome =
      (codec.changes interpreter.state id && content.provides id) := by
    intro id
    rw [members, contains_roster_fresh, record]
    exact Bool.or_false _
  have shown : (position game).visible.filter (fun id => (ready.state.character? id).isSome) =
      interpreter.visible.filter fun id =>
        codec.changes interpreter.state id && content.provides id := by
    rw [record, recordOf_visible listed, ← visible, List.filter_filter]
    apply List.filter_congr
    intro id member
    rw [present]
    cases changed : codec.changes interpreter.state id with
    | false => rfl
    | true =>
        obtain ⟨character, baseline, found, -, -⟩ := (changes_iff listed id).1 changed
        rw [found]
        exact Bool.and_true _
  intro after kept
  refine ⟨changes_iff listed, ?_, ?_⟩
  · obtain ⟨begun, runs, restoring, cast, state⟩ := Interpreter.resumeFrom_shows succeeds
    refine ⟨begun, ?_, restoring, cast.trans shown, ?_⟩
    · rw [← runs]
      exact resumes
    · intro id
      rw [state]
      exact present id
  · intro waiting room waits
    have unit : interpreter.unitId? = some (position game).unitId := by
      rw [record]
      exact congrArg Prod.fst place
    have step : (position game).step = interpreter.step := by
      rw [record]
      exact (congrArg (fun place => place.2.1) place).symm
    obtain ⟨result, cast, state⟩ := sound.resumeFrom_cast target room waits unit step
    rw [succeeds] at result
    refine ⟨Except.ok.inj result, ?_, ?_⟩
    · change (empty.restore game _).interpreter.visible = _
      rw [resumes]
      exact cast.trans shown
    · intro id
      change ((empty.restore game _).interpreter.state.character? id).isSome = _
      rw [resumes, state]
      exact present id

/-- Two characters on screen, of whom one grows angry. -/
def duetContent : Content :=
  (((Library.empty.addUnit ⟨"start", [⟨none, .show "ann"⟩, ⟨none, .show "mc"⟩,
      ⟨none, .assign "character.mc.mood = \"angry\""⟩,
      ⟨none, .dialogue ⟨some "ann", "Calm down.", none, []⟩⟩]⟩).addCharacter
    "ann" ⟨[("mood", .text "calm")], .null, []⟩).addCharacter
    "mc" ⟨[("mood", .text "calm")], .null, []⟩).toContent

/-- The story before it begins. -/
def duetLoaded : Interpreter :=
  Operation.performAll (.new duetContent .standard) [.loadCharacters ["ann", "mc"]]

/-- The story at its line. -/
def duetStory : Interpreter :=
  Operation.performAll (.new duetContent .standard) [.loadCharacters ["ann", "mc"], .start "start"]

/-- The restored scene keeps the character that has changed and loses the other one, who speaks. -/
theorem restore_cast_duet :
    ∃ game, (empty.capture duetLoaded.state).serialize duetStory = .ok game ∧
      duetStory.visible = ["ann", "mc"] ∧ duetContent.provides "ann" = true ∧
      (empty.restore game (.new duetContent .standard)).result = .ok .dialogue ∧
      (empty.restore game (.new duetContent .standard)).interpreter.visible = ["mc"] ∧
      ((empty.restore game (.new duetContent .standard)).interpreter.state.character?
        "ann").isSome = false := by
  have edits : ∀ operation ∈ [Operation.loadCharacters ["ann", "mc"], .start "start"],
      operation.EditsByOperation := by
    intro operation member
    simp only [List.mem_cons, List.not_mem_nil, or_false] at member
    rcases member with rfl | rfl <;> trivial
  have succeeds : ((empty.capture duetLoaded.state).serialize duetStory).toOption.any (fun game =>
      (empty.restore game (.new duetContent .standard)).result.toOption = some .dialogue) =
        true := by
    decide +kernel
  cases saved : (empty.capture duetLoaded.state).serialize duetStory with
  | error cause =>
      rw [saved] at succeeds
      cases succeeds
  | ok game =>
      rw [saved] at succeeds
      cases restored : (empty.restore game (.new duetContent .standard)).result with
      | error cause =>
          simp [Except.toOption, restored] at succeeds
      | ok status =>
          obtain ⟨-, -, waits⟩ := restore_cast edits rfl saved restored
          obtain ⟨same, visible, present⟩ := waits .dialogue (by decide) rfl
          refine ⟨game, rfl, by decide +kernel, rfl, restored.trans (congrArg _ same), ?_, ?_⟩
          · rw [visible]
            decide +kernel
          · rw [present]
            decide +kernel

end SaveCodec

end VisualNovel
