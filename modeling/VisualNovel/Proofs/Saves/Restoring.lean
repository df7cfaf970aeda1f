import VisualNovel.Proofs.Interpreter.Resuming
import VisualNovel.Saves.Codec

/-!
# The course of saving and restoring

The record of a story holds its snapshot beside what has changed in the state. A restore that is
refused, or that cannot load a character, leaves the story where it stands. Any other restore
resumes the recorded position with the record laid over the characters.
-/

namespace VisualNovel.SaveCodec

variable {content : Content} {settings : StorySettings} {codec : SaveCodec} {game : SaveRecord}
variable {interpreter : Interpreter}

/-- The record of a story with a given snapshot. -/
def recordOf (codec : SaveCodec) (state : StateTree) (snapshot : Snapshot) : SaveRecord where
  unitId := snapshot.unitId
  step := snapshot.step
  callStack := snapshot.callStack
  global := state.global
  deltas := codec.deltas state
  visible := (snapshot.visible.filterMap state.character?).map fun character =>
    .ofFields character.id character.fields
  scene := snapshot.scene
  history := snapshot.history.map Markup.compactHistory
  audio := Dict.ofPairs ((snapshot.audio.filter AudioStream.looping).map fun stream =>
    (stream.id, stream))
  dialoguePart := snapshot.dialoguePart

/-- The interpreter with a record laid over its characters. -/
def laid (game : SaveRecord) (interpreter : Interpreter) : Interpreter :=
  { interpreter with state := overlaid game interpreter.state }

theorem ensureFinite_ok (finite : game.nonFinite? = none) : ensureFinite game = .ok game := by
  simp only [ensureFinite]
  rw [finite]

/-- A record that was accepted has finite numbers only. -/
theorem ensureFinite_eq {accepted : SaveRecord} (passed : ensureFinite game = .ok accepted) :
    accepted = game ∧ game.nonFinite? = none := by
  simp only [ensureFinite] at passed
  split at passed
  · cases passed
  · rename_i finite
    cases passed
    exact ⟨rfl, finite⟩

/-- What is saved is the record of the snapshot, and its numbers are finite. -/
theorem serialize_ok (saved : codec.serialize interpreter = .ok game) :
    ∃ snapshot, interpreter.snapshot = .ok snapshot ∧
      game = codec.recordOf interpreter.state snapshot ∧ game.nonFinite? = none := by
  simp only [serialize] at saved
  split at saved
  · cases saved
  · rename_i snapshot taken
    obtain ⟨same, finite⟩ := ensureFinite_eq saved
    exact ⟨snapshot, taken, same, same ▸ finite⟩

/-- A record with finite numbers is saved. -/
theorem serialize_eq {snapshot : Snapshot} (taken : interpreter.snapshot = .ok snapshot)
    (finite : (codec.recordOf interpreter.state snapshot).nonFinite? = none) :
    codec.serialize interpreter = .ok (codec.recordOf interpreter.state snapshot) := by
  simp only [serialize]
  rw [taken]
  exact ensureFinite_ok finite

/-- The ways in which a restore ends. -/
inductive Restores (codec : SaveCodec) (game : SaveRecord) (interpreter : Interpreter) :
    Restored → Prop where
  | refused (error : SaveError) (state : StateTree) (visible : List String)
      (events : List StoryEvent) :
      Restores codec game interpreter
        ⟨.error error, codec, { interpreter with state, visible, events }⟩
  | resumed {ids : List String} {ready : Interpreter} :
      interpreter.loadCharacters (codec.roster game interpreter.state) = (.ok ids, ready) →
      Restores codec game interpreter
        ⟨((laid game ready).resumeFrom (position game)).result.mapError .story,
          codec.capture ready.state, ((laid game ready).resumeFrom (position game)).after⟩

theorem restore_restores (codec : SaveCodec) (game : SaveRecord) (interpreter : Interpreter) :
    Restores codec game interpreter (codec.restore game interpreter) := by
  simp only [restore]
  split
  · exact .refused _ interpreter.state interpreter.visible interpreter.events
  · rename_i accepted passed
    obtain ⟨rfl, -⟩ := ensureFinite_eq passed
    split
    · rename_i cause after failed
      obtain ⟨state, visible, events, same⟩ :=
        Interpreter.loadCharacters_eq interpreter (codec.roster accepted interpreter.state)
      rw [failed] at same
      change after = _ at same
      subst same
      exact .refused _ state visible events
    · rename_i loaded
      exact .resumed loaded

/-- A record with finite numbers is resumed once its characters are loaded. -/
theorem restore_eq {ids : List String} {ready : Interpreter} (finite : game.nonFinite? = none)
    (loaded : interpreter.loadCharacters (codec.roster game interpreter.state) = (.ok ids, ready)) :
    codec.restore game interpreter =
      ⟨((laid game ready).resumeFrom (position game)).result.mapError .story,
        codec.capture ready.state, ((laid game ready).resumeFrom (position game)).after⟩ := by
  simp only [restore]
  rw [ensureFinite_ok finite]
  dsimp only
  rw [loaded]
  rfl

/-- A restore keeps an interpreter sound. -/
theorem restore_sound (sound : interpreter.Sound content settings) (codec : SaveCodec)
    (game : SaveRecord) : (codec.restore game interpreter).interpreter.Sound content settings := by
  have restores := restore_restores codec game interpreter
  generalize codec.restore game interpreter = restored at restores ⊢
  cases restores with
  | refused error state visible events => exact { sound with }
  | @resumed ids ready loaded =>
      have fresh := sound.loadCharacters (codec.roster game interpreter.state)
      rw [loaded] at fresh
      have edited : (laid game ready).Sound content settings :=
        fresh.perform (.edit fun state => overlaid game state)
      exact edited.perform (.resumeFrom (position game))

/-- A restore of what was saved at a step that waits goes back to the place of the save, or fails
and leaves the other story where it stands. -/
theorem restore_place {other : Interpreter} {status : Status}
    (sound : interpreter.Sound content settings) (target : other.Sound content settings)
    (room : 0 < settings.maxAutoSteps) (waits : interpreter.pause? = some status)
    (saved : codec.serialize interpreter = .ok game) (used : SaveCodec) :
    (∃ error, (used.restore game other).result = .error error ∧
      (used.restore game other).interpreter.place = other.place) ∨
    ((used.restore game other).result = .ok status ∧
      (used.restore game other).interpreter.place = interpreter.place ∧
      (used.restore game other).interpreter.state.global = interpreter.state.global) := by
  obtain ⟨snapshot, taken, same, -⟩ := serialize_ok saved
  obtain ⟨story, step, running, -, -⟩ := Interpreter.pause?_eq_some waits
  have held := Interpreter.snapshot_eq running taken
  have restores := restore_restores used game other
  generalize used.restore game other = outcome at restores ⊢
  cases restores with
  | refused error state visible events => exact .inl ⟨error, rfl, rfl⟩
  | @resumed ids ready loaded =>
      have fresh := target.loadCharacters (used.roster game other.state)
      rw [loaded] at fresh
      have edited : (laid game ready).Sound content settings :=
        fresh.perform (.edit fun state => overlaid game state)
      have unit : interpreter.unitId? = some (position game).unitId := by
        simp only [Interpreter.unitId?]
        rw [running, same, held]
        rfl
      obtain ⟨result, place, state⟩ := sound.resumeFrom_place edited room waits unit
        (by rw [same, held]; rfl) (by rw [same, held]; rfl)
      right
      refine ⟨by rw [result]; rfl, place, ?_⟩
      rw [state, same]
      rfl

end VisualNovel.SaveCodec
