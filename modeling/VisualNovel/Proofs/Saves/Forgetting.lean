import VisualNovel.Proofs.GeneratedIds
import VisualNovel.Proofs.Interpreter.Faces
import VisualNovel.Proofs.Saves.Recasting

/-!
# What a restore forgets

A restore loads every character anew, takes the global map from the record and puts the story to the
recorded place, so what was played before leaves no trace: two stories with the same characters are
restored from one record to stories with one face.
-/

namespace VisualNovel

/-- The identifier under which a step starts or stops a stream. -/
def StepKind.streamName? : StepKind → Option String
  | .play _ cue => cue.stream
  | .stopStream stream => some stream
  | _ => none

/-- No step of the content names a stream as generated streams are named. -/
def Content.NamesPlainly (content : Content) : Prop :=
  ∀ id story step name, content.unit? id = some story → step ∈ story.steps →
    step.kind.streamName? = some name → AudioRegistry.looksGenerated name = false

/-- Whether a character can be loaded or does not exist. -/
def Content.HasProperCharacter (content : Content) (id : String) : Prop :=
  ∀ cause, content.character id = .error cause → ∃ kind name, cause = .notFound kind name

/-! ## Streams -/

namespace Content

open AudioRegistry (SoundsAlike)

variable {content : Content}

/-- The same streams under the same numbers stay the same. -/
theorem tunes_same : content.Tunes fun first second =>
    second.streams = first.streams ∧ second.generated = first.generated := by
  intro id story step first second _ _ same
  obtain ⟨streams, generated⟩ := same
  cases step.kind with
  | play channel cue =>
      have fresh : second.freshNumber channel = first.freshNumber channel := by
        simp only [AudioRegistry.freshNumber]
        rw [streams, generated]
      simp only [StepKind.tuned, AudioRegistry.play, AudioRegistry.insert]
      rw [fresh, streams]
      split
      · exact ⟨rfl, generated⟩
      · exact ⟨rfl, rfl⟩
  | stopStream stream =>
      simp only [StepKind.tuned, AudioRegistry.stop]
      rw [streams]
      exact ⟨rfl, generated⟩
  | stopAllStreams => exact ⟨rfl, generated⟩
  | _ => exact ⟨streams, generated⟩

theorem NamesPlainly.tunes (plain : content.NamesPlainly) : content.Tunes SoundsAlike := by
  intro id story step first second loaded member alike
  have names := fun name => plain id story step name loaded member
  cases kind : step.kind with
  | play channel cue =>
      rw [kind] at names
      exact alike.play channel cue.file cue.looping names
  | stopStream stream =>
      rw [kind] at names
      exact alike.stop (names stream rfl)
  | stopAllStreams => exact .of_streams rfl
  | _ => exact alike

theorem tunes_any : content.Tunes fun _ _ => True :=
  fun _ _ _ _ _ _ _ _ => trivial

end Content

/-! ## The place of a record -/

namespace Interpreter

variable {content : Content} {settings : StorySettings} {first second : Interpreter}

/-- The log that is rebuilt depends on the state and the step alone. -/
theorem rebuiltHistory_contents (same : first.state.SameContents second.state)
    (step : second.step = first.step) (story : StoryUnit) (shownParts : Nat) :
    second.rebuiltHistory story shownParts = first.rebuiltHistory story shownParts := by
  have substitutes : second.state.substitute = first.state.substitute :=
    funext fun text => StateTree.substitute_contents text same
  have names : second.displayName = first.displayName := by
    funext id
    simp only [displayName, StateTree.character?]
    rw [same.1]
  simp only [rebuiltHistory, rebuiltLine?]
  rw [substitutes, names, step]

/-- A snapshot is placed over everything that was played before. -/
theorem placed_face (source : second.content = first.content)
    (limits : second.settings = first.settings) (log : second.history.limit = first.history.limit)
    (same : first.state.SameContents second.state) (story : StoryUnit) (snapshot : Snapshot) :
    (second.placed story snapshot).face = (first.placed story snapshot).face := by
  have present : (fun id => (second.state.character? id).isSome) =
      fun id => (first.state.character? id).isSome := by
    funext id
    simp only [StateTree.character?]
    rw [same.1]
  have scenes : second.restoredScene = first.restoredScene := by
    funext id
    simp only [restoredScene]
    rw [source]
  have logs : second.history.replace = first.history.replace := by
    funext lines
    simp only [History.replace, History.clear, log]
  have states : second.state.touch.bare = first.state.touch.bare :=
    StateTree.bare_eq_iff.2 same
  simp only [face, placed, dropAbsent, Interpreter.mk.injEq, true_and, and_true]
  refine ⟨source, limits, states, by rw [scenes], congrArg (snapshot.visible.filter ·) present, rfl,
    congr logs (congrArg (snapshot.history.getD ·) ?_), rfl, rfl⟩
  apply rebuiltHistory_contents
  · exact same
  · rfl

/-- The streams that a snapshot puts back are those of the snapshot. -/
theorem restoredAudio_streams (interpreter : Interpreter) (streams : List AudioStream) :
    (interpreter.restoredAudio streams).streams = Dict.ofPairs
      ((streams.filter AudioStream.looping).map fun stream => (stream.id, stream)) := by
  simp only [restoredAudio]
  rw [AudioRegistry.insertAll_streams]
  rfl

theorem insertAll_generated (streams : List AudioStream) (registry : AudioRegistry) :
    (streams.foldl AudioRegistry.insert registry).generated = registry.generated := by
  induction streams generalizing registry with
  | nil => rfl
  | cons stream streams ih => exact ih (registry.insert stream)

/-- A story is resumed from a snapshot the same way whatever was played before. -/
theorem Sound.resumeFrom_alike {heard : AudioRegistry → AudioRegistry → Prop} {snapshot : Snapshot}
    (sound : first.Sound content settings) (target : second.Sound content settings)
    (same : first.state.SameContents second.state) (tunes : content.Tunes heard)
    (loads : ∃ source, content.storyUnit snapshot.unitId = .ok source)
    (begins : heard (first.restoredAudio snapshot.audio) (second.restoredAudio snapshot.audio)) :
    EndsAlike heard (first.resumeFrom snapshot) (second.resumeFrom snapshot) := by
  obtain ⟨source, delivered⟩ := loads
  have loaded : content.unit? snapshot.unitId = some { source with id := snapshot.unitId } :=
    Content.unit?_eq_some.2 ⟨source, delivered, rfl⟩
  obtain ⟨units, found, supplied⟩ := sound.supplied.fetchUnit loaded
  obtain ⟨others, refound, twin⟩ := target.supplied.fetchUnit loaded
  have origin : second.content = first.content :=
    (show second.content = content from target.source).trans sound.source.symm
  have limits : second.settings = first.settings :=
    (show second.settings = settings from target.limits).trans sound.limits.symm
  have log : second.history.limit = first.history.limit :=
    (World.Sound.limit target).trans (World.Sound.limit sound).symm
  rw [resumeFrom_eq found, resumeFrom_eq refound]
  have resembles : Resembles heard
      ({ first with units }.placed { source with id := snapshot.unitId } snapshot)
      ({ second with units := others }.placed { source with id := snapshot.unitId } snapshot) :=
    ⟨placed_face origin limits log same _ snapshot, begins⟩
  exact resembles.run (supplied.enters loaded rfl rfl rfl) (twin.enters loaded rfl rfl rfl) tunes

/-! ## The characters of a record -/

/-- Characters that can be loaded are put as the content delivers them, and the others stay as they
are. -/
theorem loadEach_delivered {ids : List String} {interpreter : Interpreter}
    (source : interpreter.content = content) (proper : ∀ id ∈ ids, content.HasProperCharacter id) :
    (∃ loaded, (loadEach ids interpreter).1 = .ok loaded) ∧
      (Dict.Sorted interpreter.state.characters →
        Dict.Sorted (loadEach ids interpreter).2.state.characters) ∧
      ∀ id ∈ ids, (loadEach ids interpreter).2.state.character? id =
        ((content.character id).toOption.map (.ofRecord id)).or
          (interpreter.state.character? id) := by
  induction ids generalizing interpreter with
  | nil => exact ⟨⟨[], rfl⟩, id, fun _ absent => by cases absent⟩
  | cons first ids ih =>
      have others : ∀ id ∈ ids, content.HasProperCharacter id :=
        fun id member => proper id (List.mem_cons_of_mem first member)
      cases delivered : content.character first with
      | error cause =>
          obtain ⟨kind, name, rfl⟩ := proper first (List.mem_cons_self ..) cause delivered
          have skipped : loadEach (first :: ids) interpreter = loadEach ids interpreter := by
            rw [loadEach, source, delivered]
          obtain ⟨succeeds, sorted, loaded⟩ := ih source others
          rw [skipped]
          refine ⟨succeeds, sorted, ?_⟩
          intro id member
          by_cases later : id ∈ ids
          · exact loaded id later
          · obtain rfl : id = first := (List.mem_cons.1 member).resolve_right later
            rw [loadEach_other later, delivered]
            rfl
      | ok data =>
          have put : ∀ id, (interpreter.withRecord first data).state.character? id =
              if first = id then some (.ofRecord first data) else interpreter.state.character? id :=
            fun id => Dict.get?_insert ..
          have same : (interpreter.withRecord first data).content = content := source
          obtain ⟨⟨names, succeeds⟩, sorted, loaded⟩ := ih same others
          rw [loadEach_cons (source ▸ delivered)]
          refine ⟨⟨first :: names, by rw [succeeds]; rfl⟩, fun before => sorted (before.insert _ _), ?_⟩
          intro id member
          by_cases later : id ∈ ids
          · rw [loaded id later, put id]
            split
            · rename_i same
              rw [← same, delivered]
              rfl
            · rfl
          · obtain rfl : id = first := (List.mem_cons.1 member).resolve_right later
            rw [loadEach_other later, put id, if_pos rfl, delivered]
            rfl

end Interpreter

namespace SaveCodec

variable {content : Content} {settings : StorySettings} {codec : SaveCodec} {game : SaveRecord}
variable {first second : Interpreter}

open AudioRegistry (SoundsAlike)

/-- A record can be restored over an interpreter: its numbers are finite, its unit can be loaded,
and so can every character in play; the other characters of the record and of the codec can be
loaded or do not exist. -/
structure Restorable (content : Content) (codec : SaveCodec) (game : SaveRecord)
    (interpreter : Interpreter) : Prop where
  finite : game.nonFinite? = none
  unit : ∃ source, content.storyUnit game.unitId = .ok source
  provided : ∀ {id}, (interpreter.state.character? id).isSome = true →
    ∃ data, content.character id = .ok data
  proper : ∀ id ∈ codec.roster game interpreter.state, content.HasProperCharacter id
  sorted : Dict.Sorted interpreter.state.characters

/-- A restore brings in the characters that the content delivers, whatever they were before. -/
theorem Restorable.reload {interpreter : Interpreter}
    (restorable : Restorable content codec game interpreter)
    (sound : interpreter.Sound content settings) :
    ∃ ids ready, interpreter.loadCharacters (codec.roster game interpreter.state) = (.ok ids, ready) ∧
      ready.Sound content settings ∧ ready.audio = interpreter.audio ∧
      Dict.Sorted ready.state.characters ∧
      ∀ id, ready.state.character? id =
        if id ∈ codec.roster game interpreter.state then
          (content.character id).toOption.map (.ofRecord id)
        else none := by
  generalize asked : codec.roster game interpreter.state = ids
  obtain ⟨⟨names, succeeds⟩, sorted, delivered⟩ :=
    Interpreter.loadEach_delivered sound.source (asked ▸ restorable.proper)
  have result := Interpreter.loadCharacters_ok succeeds
  have state := Interpreter.loadCharacters_state interpreter ids
  have fresh := sound.loadCharacters ids
  obtain ⟨_, _, _, same⟩ := Interpreter.loadCharacters_eq interpreter ids
  have audio : (interpreter.loadCharacters ids).2.audio = interpreter.audio := by rw [same]
  generalize interpreter.loadCharacters ids = outcome at result state fresh audio
  obtain ⟨_, ready⟩ := outcome
  dsimp only at result state fresh audio
  subst result
  refine ⟨names, ready, rfl, fresh, audio, ?_, ?_⟩
  · rw [state]
    exact sorted restorable.sorted
  · intro id
    rw [state]
    split
    · rename_i member
      rw [delivered id member]
      cases found : content.character id with
      | ok data => rfl
      | error cause =>
          cases present : interpreter.state.character? id with
          | none => rfl
          | some character =>
              obtain ⟨data, known⟩ := restorable.provided (by rw [present]; rfl)
              rw [found] at known
              cases known
    · rename_i absent
      rw [Interpreter.loadEach_other absent]
      cases present : interpreter.state.character? id with
      | none => rfl
      | some character =>
          exact absurd (asked ▸ mem_roster.2 (.inl (by rw [present]; rfl))) absent

theorem overlay_characters {state other : StateTree} (same : other.characters = state.characters)
    (id : String) (fields : List (String × Value)) :
    (overlay other id fields).characters = (overlay state id fields).characters := by
  simp only [overlay, StateTree.updateCharacter?, StateTree.character?]
  rw [same]
  cases Dict.get? state.characters id with
  | none => exact same
  | some character => rfl

/-- A record laid over the same characters gives the same contents. -/
theorem overlaid_contents {state other : StateTree} (same : other.characters = state.characters)
    (game : SaveRecord) : (overlaid game state).SameContents (overlaid game other) := by
  have layers : ∀ {α : Type} (name : α → String) (fields : α → List (String × Value))
      (items : List α) {state other : StateTree}, other.characters = state.characters →
      (items.foldl (fun state item => overlay state (name item) (fields item)) other).characters =
        (items.foldl (fun state item => overlay state (name item) (fields item)) state).characters := by
    intro α name fields items
    induction items with
    | nil => exact id
    | cons item items ih => exact fun same => ih (overlay_characters same _ _)
  exact ⟨layers _ _ _ (layers _ _ _ same), rfl⟩

/-- Restores of one record over stories with the same characters end alike. -/
theorem Restorable.restore_alike {heard : AudioRegistry → AudioRegistry → Prop}
    (restorable : Restorable content codec game first)
    (other : Restorable content codec game second)
    (sound : first.Sound content settings) (target : second.Sound content settings)
    (members : ∀ id, (second.state.character? id).isSome = (first.state.character? id).isSome)
    (tunes : content.Tunes heard)
    (begins : heard (first.restoredAudio (position game).audio)
      (second.restoredAudio (position game).audio)) :
    (codec.restore game second).result = (codec.restore game first).result ∧
      (codec.restore game second).codec = (codec.restore game first).codec ∧
      Interpreter.Resembles heard (codec.restore game first).interpreter
        (codec.restore game second).interpreter := by
  obtain ⟨ids, one, loaded, fresh, audio, sorted, cast⟩ := restorable.reload sound
  obtain ⟨names, two, reloaded, refreshed, sounds, ordered, recast⟩ := other.reload target
  have asked : ∀ id, id ∈ codec.roster game second.state ↔ id ∈ codec.roster game first.state := by
    intro id
    rw [mem_roster, mem_roster, members]
  have characters : two.state.characters = one.state.characters := by
    apply ordered.ext sorted
    intro id
    have same : two.state.character? id = one.state.character? id := by
      rw [cast, recast]
      simp only [asked]
    exact same
  have laidOne : (laid game one).Sound content settings :=
    fresh.perform (.edit fun state => overlaid game state)
  have laidTwo : (laid game two).Sound content settings :=
    refreshed.perform (.edit fun state => overlaid game state)
  have placed : heard ((laid game one).restoredAudio (position game).audio)
      ((laid game two).restoredAudio (position game).audio) := by
    simp only [Interpreter.restoredAudio, laid] at begins ⊢
    rw [audio, sounds]
    exact begins
  have ends := laidOne.resumeFrom_alike laidTwo (overlaid_contents characters game) tunes
    restorable.unit placed
  rw [restore_eq restorable.finite loaded, restore_eq other.finite reloaded]
  refine ⟨?_, ?_, ends.after⟩
  · dsimp only
    rw [ends.result]
  · dsimp only [capture]
    rw [characters]

/-- A restore forgets what was played before. Whatever operations two interpreters of one content
went through, when the same characters are in play and the record can be restored over both, the
restores have the same result and the same baselines and lead to stories with one face: the same
unit, step, call stack, cast, scene, screen, status, log, continuations and contents of the state.
They hold the same streams if the same number of identifiers was generated before, and otherwise the
same but for generated identifiers. -/
theorem restore_forgets {operations others : List Operation}
    (reached : first = Operation.performAll (.new content settings) operations)
    (arrived : second = Operation.performAll (.new content settings) others)
    (restorable : Restorable content codec game first)
    (other : Restorable content codec game second)
    (members : ∀ id, (second.state.character? id).isSome = (first.state.character? id).isSome) :
    let one := codec.restore game first
    let two := codec.restore game second
    two.result = one.result ∧ two.codec = one.codec ∧
      two.interpreter.face = one.interpreter.face ∧
      (second.audio.generated = first.audio.generated →
        two.interpreter.audio.streams = one.interpreter.audio.streams) ∧
      (content.NamesPlainly → SoundsAlike one.interpreter.audio two.interpreter.audio) := by
  have sound : first.Sound content settings := by
    rw [reached]
    exact Interpreter.performAll_sound content settings operations
  have target : second.Sound content settings := by
    rw [arrived]
    exact Interpreter.performAll_sound content settings others
  have streams : (second.restoredAudio (position game).audio).streams =
      (first.restoredAudio (position game).audio).streams := by
    rw [Interpreter.restoredAudio_streams, Interpreter.restoredAudio_streams]
  intro one two
  obtain ⟨result, captured, resembles⟩ := restorable.restore_alike other sound target members
    Content.tunes_any trivial
  refine ⟨result, captured, resembles.face, ?_, ?_⟩
  · intro counted
    have generated : (second.restoredAudio (position game).audio).generated =
        (first.restoredAudio (position game).audio).generated := by
      simp only [Interpreter.restoredAudio]
      rw [Interpreter.insertAll_generated, Interpreter.insertAll_generated]
      exact counted
    obtain ⟨-, -, alike⟩ := restorable.restore_alike other sound target members
      Content.tunes_same ⟨streams, generated⟩
    exact alike.heard.1
  · intro plain
    obtain ⟨-, -, alike⟩ := restorable.restore_alike other sound target members plain.tunes
      (.of_streams streams)
    exact alike.heard

/-- Music, a title card and rain behind it. -/
def rainSteps : List Step :=
  [⟨none, .play .music ⟨"theme", none, none⟩⟩,
    ⟨none, .assign "character.mc.mood = \"angry\""⟩,
    ⟨none, .dialogue ⟨some "mc", "Hello", none, []⟩⟩,
    ⟨none, .titles ⟨"Later", none, none, none, none, false, none⟩⟩,
    ⟨none, .play .sound ⟨"rain", some true, none⟩⟩,
    ⟨none, .dialogue ⟨some "mc", "{character.mc.mood}", none, []⟩⟩]

/-- Content with a unit and a character. -/
def rainContent : Content :=
  ((Library.empty.addUnit ⟨"start", rainSteps⟩).addCharacter
    "mc" ⟨[("mood", .text "calm")], .null, []⟩).toContent

/-- A record in front of the title card. -/
def rainRecord : SaveRecord := { SaveRecord.empty with unitId := "start", step := 3 }

/-- The story of an angry character, under an injected line. -/
def angryStory : Interpreter :=
  Operation.performAll (.new rainContent .standard)
    [.loadCharacters ["mc"], .start "start", .inject none "What was that?"]

/-- The story before it begins. -/
def calmStory : Interpreter :=
  Operation.performAll (.new rainContent .standard) [.loadCharacters ["mc"]]

theorem rainContent_namesPlainly : rainContent.NamesPlainly := by
  intro id story step name loaded member named
  obtain ⟨source, delivered, rfl⟩ := Content.unit?_eq_some.1 loaded
  simp only [rainContent, Library.toContent, Library.load] at delivered
  split at delivered
  · rename_i found
    cases delivered
    have only := congrArg Prod.snd (List.mem_singleton.1 (Dict.mem_of_get? found))
    dsimp only at only
    subst only
    have unnamed : ∀ step ∈ rainSteps, step.kind.streamName? = none := by decide
    rw [unnamed step member] at named
    cases named
  · cases delivered

theorem rainContent_restorable {interpreter : Interpreter}
    (keys : Dict.keys interpreter.state.characters = ["mc"]) :
    Restorable rainContent .empty rainRecord interpreter where
  finite := by decide +kernel
  unit := ⟨_, rfl⟩
  provided := by
    intro id present
    have member := Dict.mem_keys.2 present
    rw [keys] at member
    rw [List.mem_singleton.1 member]
    exact ⟨_, rfl⟩
  proper := by
    intro id _ cause failed
    simp only [rainContent, Library.toContent, Library.load] at failed
    split at failed
    · cases failed
    · cases failed
      exact ⟨_, _, rfl⟩
  sorted := by
    have ordered : (Dict.keys interpreter.state.characters).Pairwise (· < ·) := by
      rw [keys]
      exact List.pairwise_singleton ..
    exact List.pairwise_map.1 ordered

/-- The restore brings the calm character back over the angry one. The rain plays in both stories,
under different identifiers. -/
theorem restore_forgets_rain :
    let one := SaveCodec.empty.restore rainRecord angryStory
    let two := SaveCodec.empty.restore rainRecord calmStory
    Restorable rainContent .empty rainRecord angryStory ∧
      Restorable rainContent .empty rainRecord calmStory ∧
      angryStory.state.substitute "{character.mc.mood}" = "angry" ∧
      one.interpreter.screen.dialogue = "calm" ∧
      two.interpreter.face = one.interpreter.face ∧
      two.interpreter.audio ≠ one.interpreter.audio ∧
      SoundsAlike one.interpreter.audio two.interpreter.audio := by
  have angryKeys : Dict.keys angryStory.state.characters = ["mc"] := by decide +kernel
  have calmKeys : Dict.keys calmStory.state.characters = ["mc"] := by decide +kernel
  have angry := rainContent_restorable angryKeys
  have calm := rainContent_restorable calmKeys
  have members : ∀ id, (calmStory.state.character? id).isSome =
      (angryStory.state.character? id).isSome := by
    intro id
    simp only [StateTree.character?]
    rw [Bool.eq_iff_iff, ← Dict.mem_keys, ← Dict.mem_keys, calmKeys, angryKeys]
  obtain ⟨-, -, face, -, sounds⟩ := restore_forgets (rfl : angryStory = _) (rfl : calmStory = _)
    angry calm members
  exact ⟨angry, calm, by decide +kernel, by decide +kernel, face, by decide +kernel,
    sounds rainContent_namesPlainly⟩

end SaveCodec

end VisualNovel
