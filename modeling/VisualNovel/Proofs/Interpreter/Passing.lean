import VisualNovel.Proofs.Interpreter.Coherence
import VisualNovel.Proofs.Interpreter.Erasing
import VisualNovel.Proofs.Interpreter.Plans
import VisualNovel.Proofs.Interpreter.Recovering
import VisualNovel.Proofs.Interpreter.Snapshots
import VisualNovel.Proofs.Saves.Forgetting

/-!
# Passing a title card

A story that is saved on a title card goes on behind the card when it is loaded: the first round of
the load passes the card and ends the passing, and from there the story stands where an advance
would have begun. The load has counted one step by then and holds the streams that repeat alone, so
its run is compared with the other one by the steps that are left and by these streams.
-/

namespace VisualNovel

/-! ## Streams that repeat -/

namespace AudioRegistry

variable {first second : AudioRegistry}

/-- The streams under generated identifiers that repeat, without these. -/
def anonymousLoops (registry : AudioRegistry) : List (StreamKind × String × Bool) :=
  registry.anonymous.filter fun stream => stream.2.2

/-- Two registries hold the same streams that repeat but for generated identifiers. -/
structure LoopsAlike (first second : AudioRegistry) : Prop where
  named : ∀ id, looksGenerated id = false →
    (second.get? id).filter AudioStream.looping = (first.get? id).filter AudioStream.looping
  anonymous : second.anonymousLoops.Perm first.anonymousLoops

/-- The streams that repeat are alike when the others are taken away. -/
theorem LoopsAlike.of_filter (sorted : Dict.Sorted first.streams)
    (same : second.streams = first.streams.filter fun entry => entry.2.looping) :
    LoopsAlike first second where
  named := by
    intro id _
    simp only [AudioRegistry.get?]
    rw [same, Dict.get?_filter sorted.distinct, Option.filter_filter]
    congr 1
    funext stream
    exact Bool.and_self _
  anonymous := by
    simp only [anonymousLoops, AudioRegistry.anonymous]
    rw [same, List.filter_map, List.filter_map, List.filter_filter, List.filter_filter,
      List.filter_filter]
    apply List.Perm.of_eq
    congr 1
    apply List.filter_congr
    intro entry _
    simp only [Function.comp_apply]
    cases entry.2.looping <;> cases looksGenerated entry.1 <;> rfl

theorem LoopsAlike.insert (alike : LoopsAlike first second) {stream : AudioStream}
    (plain : looksGenerated stream.id = false) :
    LoopsAlike (first.insert stream) (second.insert stream) where
  named := by
    intro id other
    simp only [AudioRegistry.get?, AudioRegistry.insert]
    rw [Dict.get?_insert, Dict.get?_insert]
    split
    · rfl
    · exact alike.named id other
  anonymous := by
    simp only [anonymousLoops, AudioRegistry.anonymous, AudioRegistry.insert]
    rw [Dict.filter_insert plain, Dict.filter_insert plain]
    exact alike.anonymous

/-- A stream under a generated identifier joins both, under whatever identifier. -/
theorem LoopsAlike.insertGenerated (alike : LoopsAlike first second) {one two : AudioStream}
    (generated : looksGenerated one.id = true) (regenerated : looksGenerated two.id = true)
    (fresh : first.get? one.id = none) (refreshed : second.get? two.id = none)
    (same : (two.kind, two.file, two.looping) = (one.kind, one.file, one.looping)) :
    LoopsAlike (first.insert one) (second.insert two) where
  named := by
    intro id plain
    have other : ∀ {stream : AudioStream}, looksGenerated stream.id = true → stream.id ≠ id := by
      intro stream looks same
      rw [same, plain] at looks
      cases looks
    simp only [AudioRegistry.get?, AudioRegistry.insert]
    rw [Dict.get?_insert, Dict.get?_insert, if_neg (other generated), if_neg (other regenerated)]
    exact alike.named id plain
  anonymous := by
    have joined := (insert_anonymous generated fresh).filter fun stream => stream.2.2
    have rejoined := (insert_anonymous regenerated refreshed).filter fun stream => stream.2.2
    rw [same] at rejoined
    apply rejoined.trans
    apply List.Perm.trans _ joined.symm
    simp only [List.filter_cons]
    split
    · exact alike.anonymous.cons _
    · exact alike.anonymous

theorem LoopsAlike.play (alike : LoopsAlike first second) (kind : StreamKind) (file : String)
    (looping : Option Bool) {id : Option String}
    (plain : ∀ name, id = some name → looksGenerated name = false) :
    LoopsAlike (first.play kind file looping id).1 (second.play kind file looping id).1 := by
  simp only [AudioRegistry.play]
  split
  · rename_i name given
    exact alike.insert (plain name (Option.mem_filter_iff.1 given).1)
  · have counted : LoopsAlike { first with generated := first.freshNumber kind + 1 }
        { second with generated := second.freshNumber kind + 1 } := ⟨alike.named, alike.anonymous⟩
    exact counted.insertGenerated (generatedId_looksGenerated ..) (generatedId_looksGenerated ..)
      (freshNumber_fresh first kind) (freshNumber_fresh second kind) rfl

theorem LoopsAlike.stop (alike : LoopsAlike first second) {id : String}
    (plain : looksGenerated id = false) : LoopsAlike (first.stop id) (second.stop id) where
  named := by
    intro name other
    simp only [AudioRegistry.get?, AudioRegistry.stop]
    rw [Dict.get?_erase, Dict.get?_erase]
    split
    · rfl
    · exact alike.named name other
  anonymous := by
    simp only [anonymousLoops, AudioRegistry.anonymous, AudioRegistry.stop]
    rw [Dict.filter_erase plain, Dict.filter_erase plain]
    exact alike.anonymous

end AudioRegistry

open AudioRegistry (LoopsAlike)

/-- Steps that name streams plainly keep those alike that repeat. -/
theorem Content.NamesPlainly.tunes_loops {content : Content} (plain : content.NamesPlainly) :
    content.Tunes LoopsAlike := by
  intro id story step first second loaded member alike
  have names := fun name => plain id story step name loaded member
  cases kind : step.kind with
  | play channel cue =>
      rw [kind] at names
      exact alike.play channel cue.file cue.looping names
  | stopStream stream =>
      rw [kind] at names
      exact alike.stop (names stream rfl)
  | stopAllStreams => exact ⟨fun _ _ => rfl, .refl _⟩
  | _ => exact alike

/-- A log that takes over the lines of another one with its limit becomes this log. -/
theorem History.Bounded.replace_self {history other : History} (bounded : history.Bounded)
    (target : other.Bounded) (limit : other.limit = history.limit) :
    other.replace history.entries = history := by
  have entries := target.replace_entries history.entries
  have kept := target.replace_limit history.entries
  rw [limit, newest_of_le bounded.within] at entries
  rw [limit] at kept
  generalize other.replace history.entries = replaced at entries kept
  obtain ⟨lines, most⟩ := replaced
  cases entries
  cases kept
  rfl

namespace Interpreter

/-- Events and times do not show in a face. -/
theorem face_undated (interpreter : Interpreter) : interpreter.undated.face = interpreter.face := by
  simp only [face, undated, Option.map_map]
  rfl

variable {content : Content} {settings : StorySettings} {interpreter other : Interpreter}
variable {story : StoryUnit} {step : Step} {card : Titles} {durationMs : Option Nat}
variable {snapshot : Snapshot}

/-! ## Behind a card -/

/-- A card without a line over it belongs to the current step, and nothing is left to do. -/
theorem Settled.waits_card (settled : interpreter.Settled) (top : interpreter.isInterrupted = false)
    (waits : interpreter.status = .titles durationMs) :
    interpreter.continuations = [] ∧ ∃ step card, interpreter.currentStep? = some step ∧
      step.kind = .titles card := by
  have fits := settled.uncovered top
  rw [waits] at fits
  generalize interpreter.isTimed = timed, interpreter.screen = screen at fits
  generalize stack : interpreter.continuations = left at fits
  cases fits with
  | idle resting => cases resting
  | titles current duration =>
      obtain ⟨step, found, kind⟩ := Option.map_eq_some_iff.1 current
      exact ⟨rfl, step, _, found, kind⟩

/-- An advance goes on behind a card. -/
theorem advance_card (done : interpreter.continuations = [])
    (waits : interpreter.status = .titles durationMs) :
    interpreter.advance = interpreter.forward.run := by
  simp only [Interpreter.advance]
  rw [done, waits]
  rfl

/-- The story as a load begins it on the card. -/
def reloaded (interpreter : Interpreter) : Interpreter :=
  { interpreter.clearDisplay with restoring := true, restoreParts := 0, status := .notStarted }

/-- A card is passed without a trace while a story restores. -/
theorem turn_card (current : interpreter.currentStep? = some step)
    (kind : step.kind = .titles card) (room : 0 < interpreter.settings.maxAutoSteps)
    (restoring : interpreter.restoring = true) :
    interpreter.turn 0 =
      .performed { interpreter with restoring := false, step := interpreter.step + 1 } := by
  rw [turn_step current room]
  simp only [Interpreter.dispatch, kind]
  rw [restoring]
  rfl

/-- A load on a card ends as a run behind the card, unless it comes to the limit of steps. -/
theorem reloaded_run (current : interpreter.currentStep? = some step)
    (kind : step.kind = .titles card)
    (free : ∀ limit, interpreter.reloaded.run.result ≠ .error (.stepLimit limit)) :
    AkinOutcomes interpreter.reloaded.run interpreter.forward.run.withoutParts := by
  have begins : Reaches interpreter.reloaded 0 0 interpreter.reloaded := .start
  have stands : interpreter.reloaded.currentStep? = some step := current
  have room := begins.room free (Option.isSome_iff_exists.2 ⟨step, stands⟩)
  have passes := begins.performed (turn_card stands kind room rfl)
  have akin : Akin { interpreter.forward.withoutParts with status := .notStarted }
      interpreter.forward.withoutParts :=
    ⟨interpreter.status, interpreter.events, interpreter.clock, none, rfl, rfl⟩
  have fresh : interpreter.forward.restoring = false := rfl
  rw [← withoutParts_run fresh]
  -- The load has counted the card, and the other run has counted nothing.
  exact (akin.turn (Nat.zero_le 1) (passes.room free)).run_akin passes .start (Nat.zero_le 1) free
    (Nat.le_refl _)

/-! ## Loading on a card -/

/-- A snapshot on a card is placed as the story was, with nothing but the streams that repeat. -/
theorem Sound.placed_card (sound : interpreter.Sound content settings)
    (target : other.Sound content settings)
    (same : interpreter.state.SameContents other.state)
    (running : interpreter.story = some story) (taken : interpreter.snapshot = .ok snapshot)
    (done : interpreter.continuations = []) (found : story.step? interpreter.step = some step)
    (kind : step.kind = .titles card)
    (shown : ∀ id ∈ interpreter.visible, (interpreter.state.character? id).isSome = true)
    (scenes : ∀ {id scene}, content.scene id = .ok scene → scene.id = id)
    (units : Dict StoryUnit) :
    ({ other with units }.placed story snapshot).face = interpreter.reloaded.face := by
  have held := snapshot_eq running taken
  have current : interpreter.currentStep? = some step := (currentStep?_eq running).trans found
  have parts : interpreter.shownParts? = none := by
    simp only [shownParts?]
    rw [current, Option.map_some, kind]
  have source : other.content = interpreter.content :=
    (show other.content = content from target.source).trans sound.source.symm
  have limits : other.settings = interpreter.settings :=
    (show other.settings = settings from target.limits).trans sound.limits.symm
  have within : min interpreter.step story.steps.length = interpreter.step :=
    Nat.min_eq_left (Nat.le_of_lt (step?_lt found))
  have present : (fun id => (other.state.character? id).isSome) =
      fun id => (interpreter.state.character? id).isSome := by
    funext id
    simp only [StateTree.character?]
    rw [same.1]
  have cast : interpreter.visible.filter (fun id => (other.state.character? id).isSome) =
      interpreter.visible := by
    rw [present]
    exact List.filter_eq_self.2 shown
  have states : other.state.touch.bare = interpreter.state.bare := StateTree.bare_eq_iff.2 same
  have scene := sound.restoredScene_eq target scenes
  have log : other.history.replace interpreter.history.entries = interpreter.history :=
    History.Bounded.replace_self (World.Sound.history sound) (World.Sound.history target)
      ((World.Sound.limit target).trans (World.Sound.limit sound).symm)
  rw [held]
  simp only [face, placed, reloaded, dropAbsent, parts, Interpreter.mk.injEq, true_and, and_true]
  exact ⟨source, limits, running.symm, within, List.reverse_reverse _, states, scene, cast, rfl,
    log, done.symm, rfl, rfl, rfl⟩

/-- The unit of a snapshot is found again in another interpreter of the content. -/
theorem Sound.fetch_saved (sound : interpreter.Sound content settings)
    (target : other.Sound content settings) (running : interpreter.story = some story)
    (taken : interpreter.snapshot = .ok snapshot) :
    ∃ units, other.fetchUnit snapshot.unitId = (.ok story, { other with units }) ∧
      Supplied content { other with units } ∧ content.unit? story.id = some story := by
  obtain ⟨source, delivered, named⟩ := sound.delivered running
  have loaded : content.unit? story.id = some story :=
    Content.unit?_eq_some.2 ⟨source, delivered, named⟩
  obtain ⟨units, fetched, supplied⟩ := target.supplied.fetchUnit loaded
  rw [snapshot_eq running taken]
  exact ⟨units, fetched, supplied, loaded⟩

/-- Loading a save taken on a title card is the same as advancing past the card. Where an
interpreter waits on a card without a line over it, with every character on screen in play, its
snapshot is resumed in another interpreter of the same content, settings and state to the same
result and the same face: the same unit, step, call stack, screen, status, continuations, cast,
scene, log and contents of the state, as long as the load does not come to the limit of steps. The
streams that repeat are the same but for generated identifiers. The first round of the load passes
the card and leaves the state alone; what follows is performed as it is behind the advance. -/
theorem resumeFrom_card (reachable : interpreter.Reachable content settings)
    (elsewhere : other.Reachable content settings)
    (waits : interpreter.status = .titles durationMs) (top : interpreter.isInterrupted = false)
    (taken : interpreter.snapshot = .ok snapshot)
    (shown : ∀ id ∈ interpreter.visible, (interpreter.state.character? id).isSome = true)
    (scenes : ∀ {id scene}, content.scene id = .ok scene → scene.id = id)
    (same : interpreter.state.SameContents other.state)
    (free : ∀ limit, (other.resumeFrom snapshot).result ≠ .error (.stepLimit limit)) :
    (other.resumeFrom snapshot).result = interpreter.advance.result ∧
      (other.resumeFrom snapshot).after.face = interpreter.advance.after.withoutParts.face ∧
      (content.NamesPlainly →
        LoopsAlike interpreter.advance.after.audio (other.resumeFrom snapshot).after.audio) ∧
      ∃ begun passed : Interpreter, other.resumeFrom snapshot = begun.run ∧
        begun.turn 0 = .performed passed ∧ passed.restoring = false ∧
        passed.step = interpreter.step + 1 ∧ interpreter.state.SameContents passed.state := by
  have sound := reachable.sound
  have target := elsewhere.sound
  have settled : interpreter.Settled := by
    obtain ⟨operations, rfl⟩ := reachable
    exact performAll_settled content settings operations
  obtain ⟨done, step, card, current, kind⟩ := settled.waits_card top waits
  obtain ⟨story, running, found⟩ := currentStep?_eq_some current
  obtain ⟨units, fetched, supplied, loaded⟩ := sound.fetch_saved target running taken
  have resumes := resumeFrom_eq fetched
  have placed := sound.placed_card target same running taken done found kind shown scenes units
  have begins : Supplied content ({ other with units }.placed story snapshot) :=
    supplied.enters loaded rfl rfl rfl
  have reloads : interpreter.reloaded.Supplied content := { sound.supplied with }
  have ends : ∀ {heard : AudioRegistry → AudioRegistry → Prop}, content.Tunes heard →
      heard interpreter.reloaded.audio ({ other with units }.placed story snapshot).audio →
      EndsAlike heard interpreter.reloaded.run (other.resumeFrom snapshot) := by
    intro heard tunes alike
    have resembles : Resembles heard interpreter.reloaded _ := ⟨placed, alike⟩
    rw [resumes]
    exact resembles.run reloads begins tunes
  have alike := ends Content.tunes_any trivial
  have unlimited : ∀ limit, interpreter.reloaded.run.result ≠ .error (.stepLimit limit) := by
    rw [← alike.result]
    exact free
  have akin := reloaded_run current kind unlimited
  have advances := advance_card done waits
  refine ⟨?_, ?_, ?_, ?_⟩
  · rw [alike.result, advances]
    exact akin.result.symm
  · have faced := congrArg face akin.after
    rw [face_undated, face_undated] at faced
    rw [alike.after.face, advances]
    exact faced.symm
  · intro plain
    have streams : (other.restoredAudio snapshot.audio).streams =
        interpreter.audio.streams.filter fun entry => entry.2.looping := by
      rw [snapshot_eq running taken]
      exact sound.restoredAudio_streams other
    have heard := (ends plain.tunes_loops
      (.of_filter (World.Sound.streams sound) streams)).after.heard
    have audio := congrArg Interpreter.audio akin.after
    change interpreter.forward.run.after.audio = interpreter.reloaded.run.after.audio at audio
    rw [advances, audio]
    exact heard
  · have resembles : Resembles (fun _ _ => True) interpreter.reloaded _ := ⟨placed, trivial⟩
    have stands :
        Interpreter.currentStep? ({ other with units }.placed story snapshot) = some step :=
      (resembles.read Interpreter.currentStep? fun _ => rfl).trans current
    have began : Reaches ({ other with units }.placed story snapshot) 0 0 _ := .start
    have room := began.room (resumes ▸ free) (Option.isSome_iff_exists.2 ⟨step, stands⟩)
    have position := resembles.read Interpreter.step fun _ => rfl
    exact ⟨_, _, resumes, turn_card stands kind room rfl, rfl, congrArg (· + 1) position, same⟩

/-- A card in front of another scene, with an assignment of its own and others behind it. -/
def eveSteps : List Step :=
  [⟨none, .play .music ⟨"theme", none, none⟩⟩, ⟨none, .play .sound ⟨"bell", none, none⟩⟩,
    ⟨none, .titles ⟨"The next day", none, none, none, none, false, some "global.days += 1"⟩⟩,
    ⟨none, .scene (some "hall")⟩, ⟨none, .show "mc"⟩,
    ⟨none, .play .music ⟨"dawn", none, none⟩⟩,
    ⟨none, .dialogue ⟨some "mc", "Morning!", some "global.talks += 1", []⟩⟩]

/-- Content with the card, a scene and a character. -/
def eveContent : Content :=
  (((Library.empty.addUnit ⟨"start", eveSteps⟩).addScene ⟨"hall", []⟩).addCharacter
    "mc" ⟨[("name", .text "Mia")], .null, []⟩).toContent

/-- The story on the card. -/
def eveStory : Interpreter :=
  Operation.performAll (.new eveContent .standard) [.loadCharacters ["mc"], .start "start"]

/-- Another interpreter with the characters and the global map of the story. -/
def eveLoaded : Interpreter :=
  Operation.performAll (.new eveContent .standard)
    [.loadCharacters ["mc"], .edit fun state => state.assigned "global.days += 1"]

theorem eveContent_namesPlainly : eveContent.NamesPlainly := by
  intro id story step name loaded member named
  obtain ⟨source, delivered, rfl⟩ := Content.unit?_eq_some.1 loaded
  simp only [eveContent, Library.toContent, Library.load] at delivered
  split at delivered
  · rename_i found
    cases delivered
    have only := congrArg Prod.snd (List.mem_singleton.1 (Dict.mem_of_get? found))
    dsimp only at only
    subst only
    have unnamed : ∀ step ∈ eveSteps, step.kind.streamName? = none := by decide
    rw [unnamed step member] at named
    cases named
  · cases delivered

theorem eveContent_scenes {id : String} {scene : Scene}
    (delivered : eveContent.scene id = .ok scene) : scene.id = id := by
  simp only [eveContent, Library.toContent, Library.load] at delivered
  split at delivered
  · rename_i found
    cases delivered
    have only := List.mem_singleton.1 (Dict.mem_of_get? found)
    cases only
    rfl
  · cases delivered

/-- The save taken on the card. -/
def eveSnapshot : Snapshot where
  unitId := "start"
  step := 2
  callStack := []
  visible := []
  scene := none
  history := some eveStory.history.entries
  audio := eveStory.audio.loopingStreams
  dialoguePart := none

set_option maxRecDepth 20000 in
theorem eveLoaded_contents : eveStory.state.SameContents eveLoaded.state :=
  ⟨rfl, rfl⟩

set_option maxRecDepth 20000 in
theorem eveLoaded_resumed : (eveStory.state.assigned "global.talks += 1").SameContents
    (eveLoaded.resumeFrom eveSnapshot).after.state :=
  ⟨rfl, rfl⟩

/-- Loaded on the card, the story stands at the line behind it, in the other scene and over both
tunes. The load does not count the day again, and counts the talk once. -/
theorem resumeFrom_card_eve :
    eveStory.status = .titles none ∧ eveStory.snapshot = .ok eveSnapshot ∧
      (eveLoaded.resumeFrom eveSnapshot).result = .ok .dialogue ∧
      (eveLoaded.resumeFrom eveSnapshot).after.face = eveStory.advance.after.withoutParts.face ∧
      LoopsAlike eveStory.advance.after.audio (eveLoaded.resumeFrom eveSnapshot).after.audio ∧
      (eveStory.state.assigned "global.talks += 1").SameContents
        (eveLoaded.resumeFrom eveSnapshot).after.state ∧
      (eveLoaded.resumeFrom eveSnapshot).after.audio.loopingStreams.map AudioStream.file =
        ["theme", "dawn"] := by
  have waits : eveStory.status = .titles none := by decide +kernel
  have top : eveStory.isInterrupted = false := by decide +kernel
  have taken : eveStory.snapshot = .ok eveSnapshot := rfl
  have present : ∀ id ∈ eveStory.visible, (eveStory.state.character? id).isSome = true := by
    decide +kernel
  have result : (eveLoaded.resumeFrom eveSnapshot).result = .ok .dialogue := by
    decide +kernel
  have free : ∀ limit, (eveLoaded.resumeFrom eveSnapshot).result ≠ .error (.stepLimit limit) := by
    intro limit
    rw [result]
    intro failed
    cases failed
  have reachable : eveStory.Reachable eveContent .standard := ⟨_, rfl⟩
  have elsewhere : eveLoaded.Reachable eveContent .standard := ⟨_, rfl⟩
  obtain ⟨-, face, loops, -⟩ := resumeFrom_card reachable elsewhere waits top taken present
    eveContent_scenes eveLoaded_contents free
  exact ⟨waits, taken, result, face, loops eveContent_namesPlainly, eveLoaded_resumed,
    by decide +kernel⟩

end Interpreter

end VisualNovel
