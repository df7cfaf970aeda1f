import VisualNovel.Proofs.Interpreter.Chronicling
import VisualNovel.Proofs.Interpreter.Passing
import VisualNovel.Proofs.Interpreter.Redirecting

/-!
# Resuming without a log

A snapshot that was taken without the log is resumed with one that is rebuilt from the steps up to
the current one. For a straight story this is the log that the play had written.
-/

namespace VisualNovel.Interpreter

variable {name : String → String} {interpreter : Interpreter} {story : StoryUnit} {step : Step}

/-! ## The log that is rebuilt -/

/-- A line of a straight story is rebuilt as it is told, unless it is the current one and some of it
is left. -/
theorem rebuiltLine?_eq (names : interpreter.Names story name) (member : step ∈ story.steps)
    (straight : step.kind.isStraight = true) (shown index : Nat) :
    interpreter.rebuiltLine? shown index step =
      if index = interpreter.step ∧ step.kind.left shown ≠ [] then none
      else step.told? name index := by
  cases kind : step.kind with
  | dialogue line =>
      rw [kind] at straight
      obtain ⟨opening, parts⟩ := Bool.and_eq_true_iff.1 straight
      have left : line.left (min shown line.parts.length) ≠ [] ↔ shown < line.parts.length := by
        simp only [Dialogue.left]
        split <;> simp <;> omega
      have texts : line.parts.map (fun part => interpreter.state.substitute part.text) =
          line.parts.map DialoguePart.text := by
        apply List.map_congr_left
        intro part among
        exact StateTree.substitute_literal (List.all_eq_true.1 parts part among) _
      have whole : String.join (line.text :: line.parts.map DialoguePart.text) =
          line.textUpTo line.parts.length := by
        simp only [Dialogue.textUpTo]
        rw [List.take_length]
      simp only [rebuiltLine?, Step.told?, Dialogue.entry, kind, StepKind.left]
      rw [texts, StateTree.substitute_literal opening, whole, ← names.called member kind]
      simp only [left, Bool.and_eq_true, decide_eq_true_eq]
      cases line.character <;> rfl
  | titles card =>
      rw [kind] at straight
      simp only [rebuiltLine?, Step.told?, kind, StepKind.left]
      rw [StateTree.substitute_literal straight]
      simp
  | _ => simp [rebuiltLine?, Step.told?, kind, StepKind.left]

/-- The log that is rebuilt for a straight story holds what its steps tell, up to the current step
when nothing of it is left. -/
theorem rebuiltHistory_eq (names : interpreter.Names story name)
    (straight : story.isStraight = true) (found : story.step? interpreter.step = some step)
    (shown : Nat) :
    interpreter.rebuiltHistory story shown = story.told name
      (if step.kind.left shown = [] then interpreter.step + 1 else interpreter.step) := by
  have earlier : (story.steps.take interpreter.step).zipIdx.filterMap
      (fun entry => interpreter.rebuiltLine? shown entry.2 entry.1) =
        story.told name interpreter.step := by
    apply List.filterMap_congr
    intro entry member
    have below := List.snd_lt_of_mem_zipIdx member
    rw [List.length_take] at below
    have among := List.mem_of_mem_take (List.fst_mem_of_mem_zipIdx member)
    have plain : entry.1.kind.isStraight = true := List.all_eq_true.1 straight entry.1 among
    rw [rebuiltLine?_eq names among plain, if_neg]
    rintro ⟨same, -⟩
    omega
  have current := rebuiltLine?_eq names (List.mem_of_getElem? found)
    (StoryUnit.isStraight_step straight found) shown interpreter.step
  have gathered : interpreter.rebuiltHistory story shown = story.told name interpreter.step ++
      (interpreter.rebuiltLine? shown interpreter.step step).toList := by
    rw [← earlier]
    exact StoryUnit.gather_succ _ found
  rw [gathered, current]
  split
  · rename_i unfinished
    rw [if_neg unfinished.2]
    exact List.append_nil _
  · rename_i finished
    rw [if_pos (by simpa using finished), StoryUnit.told_succ name found]

/-! ## Resuming without a log -/

/-- A step of which nothing is left to do is recorded as one that is shown as a whole. -/
theorem left_shownParts? (current : interpreter.currentStep? = some step)
    (done : interpreter.continuations = []) :
    step.kind.left (interpreter.shownParts?.getD 0) = [] := by
  simp only [shownParts?]
  rw [current, done]
  cases kind : step.kind with
  | dialogue line =>
      simp only [Option.map_some, kind, StepKind.left, Dialogue.left]
      split <;> simp_all
  | _ => rfl

/-- A straight story that waits has the log that is rebuilt for it. -/
theorem Told.holds (told : Told name story interpreter) (straight : story.isStraight = true)
    (waits : interpreter.status.isWaiting = true) {other : Interpreter}
    (names : other.Names story name) (same : other.step = interpreter.step) :
    interpreter.history.Holds
      (other.rebuiltHistory story (interpreter.shownParts?.getD 0)) := by
  cases told.stage with
  | rests resting =>
      rw [resting] at waits
      cases waits
  | whole found _ done log =>
      have current := (currentStep?_eq told.running).trans found
      rw [rebuiltHistory_eq names straight (same ▸ found), left_shownParts? current done,
        if_pos rfl, same]
      exact log
  | @begun step line next printed found kind _ below left spoken log =>
      have current := (currentStep?_eq told.running).trans found
      have shown : interpreter.shownParts? = some next := by
        simp only [shownParts?]
        rw [current, Option.map_some, kind, left]
        dsimp only
        have several : line.parts.isEmpty = false := by
          rw [List.isEmpty_eq_false_iff_exists_mem]
          exact ⟨_, List.getElem_mem below⟩
        rw [several]
        rfl
      have unfinished : step.kind.left next ≠ [] := by
        simp only [kind, StepKind.left, Dialogue.left]
        rw [if_pos (by omega)]
        exact List.cons_ne_nil _ _
      rw [rebuiltHistory_eq names straight (same ▸ found), shown, Option.getD_some,
        if_neg unfinished, same]
      exact log

variable {content : Content} {settings : StorySettings} {before other : Interpreter}
variable {id : String} {operations : List Operation} {snapshot : Snapshot}

/-- Nothing of a place but its log depends on the log of a snapshot. -/
theorem placed_withLog (interpreter : Interpreter) (story : StoryUnit) (snapshot : Snapshot)
    (lines : Option (List HistoryEntry)) :
    interpreter.placed story { snapshot with history := lines } =
      (interpreter.placed story snapshot).withLog
        (interpreter.placed story { snapshot with history := lines }).history :=
  rfl

/-- A snapshot is placed with its own log. -/
theorem Sound.placed_log (sound : interpreter.Sound content settings)
    (target : other.Sound content settings) (running : interpreter.story = some story)
    (taken : interpreter.snapshot = .ok snapshot) (units : Dict StoryUnit) :
    ({ other with units }.placed story snapshot).history = interpreter.history := by
  rw [snapshot_eq running taken]
  exact History.Bounded.replace_self (World.Sound.history sound) (World.Sound.history target)
    ((World.Sound.limit target).trans (World.Sound.limit sound).symm)

/-- What is logged behind a snapshot joins its log, as it would join an empty one. -/
theorem Sound.resumeFrom_entries (sound : interpreter.Sound content settings)
    (target : other.Sound content settings) (running : interpreter.story = some story)
    (taken : interpreter.snapshot = .ok snapshot) :
    (other.resumeFrom snapshot).after.history.entries =
      History.newest interpreter.history.limit (interpreter.history.entries ++
        (other.resumeFrom { snapshot with history := some [] }).after.history.entries) := by
  obtain ⟨units, fetched, -, -⟩ := sound.fetch_saved target running taken
  have log := sound.placed_log target running taken units
  have bounded : interpreter.history.Bounded := World.Sound.history sound
  have cleared : other.history.clear.Bounded := History.Bounded.clear (World.Sound.history target)
  have limit : other.history.limit = interpreter.history.limit :=
    (World.Sound.limit target).trans (World.Sound.limit sound).symm
  obtain ⟨lines, runs⟩ := run_withLog ({ other with units }.placed story snapshot)
  have recorded : other.resumeFrom snapshot = Outcome.withLog
      ({ other with units }.placed story snapshot).run
      (lines.foldl History.push interpreter.history) := by
    rw [resumeFrom_eq fetched, ← log]
    exact runs _
  have blank : other.resumeFrom { snapshot with history := some [] } = Outcome.withLog
      ({ other with units }.placed story snapshot).run
      (lines.foldl History.push other.history.clear) := by
    have begins : other.resumeFrom { snapshot with history := some [] } =
        ({ other with units }.placed story { snapshot with history := some [] }).run :=
      resumeFrom_eq fetched
    rw [begins, placed_withLog]
    exact runs _
  have entries := (cleared.foldl_push lines).2.2
  rw [recorded, blank]
  change (lines.foldl History.push interpreter.history).entries = History.newest _
    (_ ++ (lines.foldl History.push other.history.clear).entries)
  rw [(bounded.foldl_push lines).2.2, entries]
  change _ = History.newest _ (_ ++ History.newest other.history.limit ([] ++ lines))
  rw [limit, List.nil_append, History.newest_append_newest]

/-- A straight story that waits stands at a step that waits so. -/
theorem Told.current (told : Told name story interpreter)
    (waits : interpreter.status.isWaiting = true) :
    ∃ step, story.step? interpreter.step = some step ∧
      step.kind.waits? = some interpreter.status := by
  cases told.stage with
  | rests resting =>
      rw [resting] at waits
      cases waits
  | whole found stops => exact ⟨_, found, stops⟩
  | begun found kind status => exact ⟨_, found, by rw [kind, status]; rfl⟩

section

variable (told : Told other.displayName story interpreter) (straight : story.isStraight = true)
variable (waits : interpreter.status.isWaiting = true)
variable (sound : interpreter.Sound content settings) (target : other.Sound content settings)
variable (taken : interpreter.snapshot = .ok snapshot)

include told straight waits sound target taken

/-- Placed without a log, a straight story that waits gets its log back. -/
theorem Told.placed_history (units : Dict StoryUnit) :
    ({ other with units }.placed story { snapshot with history := none }).history =
      interpreter.history := by
  obtain ⟨step, found, -⟩ := told.current waits
  have within : min interpreter.step story.steps.length = interpreter.step :=
    Nat.min_eq_left (Nat.le_of_lt (step?_lt found))
  have bounded : other.history.Bounded := World.Sound.history target
  have limit : other.history.limit = interpreter.history.limit :=
    (World.Sound.limit target).trans (World.Sound.limit sound).symm
  rw [snapshot_eq told.running taken]
  apply History.Holds.unique (told.holds straight waits _ within) (bounded.holds_replace _)
  · exact (bounded.replace_limit _).trans limit
  · exact fun _ _ => rfl

/-- A straight story that waits is resumed without its log as it is with it. -/
theorem Told.resumeFrom_unrecorded :
    other.resumeFrom { snapshot with history := none } = other.resumeFrom snapshot := by
  obtain ⟨units, fetched, -, -⟩ := sound.fetch_saved target told.running taken
  have rebuilt := told.placed_history straight waits sound target taken units
  have kept := sound.placed_log target told.running taken units
  have same : { other with units }.placed story { snapshot with history := none } =
      { other with units }.placed story snapshot := by
    rw [placed_withLog, rebuilt, ← kept]
    rfl
  have unrecorded : other.resumeFrom { snapshot with history := none } =
      ({ other with units }.placed story { snapshot with history := none }).run :=
    resumeFrom_eq fetched
  rw [unrecorded, same, resumeFrom_eq fetched]

end

/-- A straight story that waits at anything but a title card waits there again, with its log. -/
theorem Told.resumeFrom_line (told : Told name story interpreter)
    (waits : interpreter.status.isWaiting = true) (sound : interpreter.Sound content settings)
    (target : other.Sound content settings) (taken : interpreter.snapshot = .ok snapshot)
    (room : 0 < settings.maxAutoSteps)
    (line : ∀ durationMs, interpreter.status ≠ .titles durationMs) :
    (other.resumeFrom snapshot).result = .ok interpreter.status ∧
      (other.resumeFrom snapshot).after.history = interpreter.history := by
  obtain ⟨step, found, stops⟩ := told.current waits
  have pauses : step.kind.pause? = some interpreter.status := by
    cases kind : step.kind with
    | titles card =>
        rw [kind] at stops
        exact absurd (Option.some.inj stops).symm (line _)
    | _ =>
        rw [kind] at stops
        exact stops
  obtain ⟨source, delivered, named⟩ := sound.delivered told.running
  have held := snapshot_eq told.running taken
  have unit : snapshot.unitId = story.id := by rw [held]
  have place : story.step? snapshot.step = some step := by
    rw [held]
    exact found
  obtain ⟨units, screen, restoreParts, resumed⟩ :=
    target.resumeFrom_suspended room delivered named unit place pauses
  rw [resumed]
  exact ⟨rfl, sound.placed_log target told.running taken units⟩

theorem Told.base_status (told : Told name story interpreter) :
    interpreter.base.status = interpreter.status := by
  simp only [base]
  cases told.stage with
  | rests _ done | whole _ _ done | begun _ _ _ _ done =>
      rw [done]
      rfl

/-- The log that is rebuilt equals the log of the play. Where a straight story waits that was
started over an empty log and played, and whose speakers have kept their names, its snapshot without
the log is resumed as its snapshot with the log. The log is then that of the play, followed by what
the resumed run logs over an empty log. This is nothing unless the story waits on a title card:
elsewhere it waits again at once, with the log of the play. -/
theorem resumeFrom_rebuilt (reachable : before.Reachable content settings)
    (elsewhere : other.Reachable content settings) (empty : before.history.entries = [])
    (loaded : content.unit? id = some story) (straight : story.isStraight = true)
    (plays : ∀ operation ∈ operations, operation.plays = true)
    (steady : ∀ played, played <+: operations →
      (Operation.performAll before (.start id :: played)).Names story other.displayName)
    (stands : Operation.performAll before (.start id :: operations) = interpreter)
    (waits : interpreter.status.isWaiting = true) (taken : interpreter.snapshot = .ok snapshot) :
    other.resumeFrom { snapshot with history := none } = other.resumeFrom snapshot ∧
      (other.resumeFrom { snapshot with history := none }).after.history.entries =
        History.newest interpreter.history.limit (interpreter.history.entries ++
          (other.resumeFrom { snapshot with history := some [] }).after.history.entries) ∧
      ((∀ durationMs, interpreter.status ≠ .titles durationMs) →
        (other.resumeFrom { snapshot with history := none }).result = .ok interpreter.status ∧
          (other.resumeFrom { snapshot with history := none }).after.history =
            interpreter.history) := by
  have played : interpreter.Reachable content settings := by
    obtain ⟨past, rfl⟩ := reachable
    refine ⟨past ++ .start id :: operations, ?_⟩
    rw [← stands]
    exact List.foldl_append
  have sound := played.sound
  have target := elsewhere.sound
  have started : Told other.displayName story (before.start id).after :=
    reachable.sound.start_told empty loaded straight (steady [] List.nil_prefix)
  have told : Told other.displayName story interpreter := by
    rw [← stands]
    exact started.performAll straight plays steady
  have unrecorded := told.resumeFrom_unrecorded straight waits sound target taken
  refine ⟨unrecorded, ?_, ?_⟩
  · rw [unrecorded]
    exact sound.resumeFrom_entries target told.running taken
  · have room := played.room (told.base_status.symm ▸ waits)
    rw [unrecorded]
    exact told.resumeFrom_line waits sound target taken room

/-- A choice, a line in two parts, a card and another line. -/
def chaseUnit : StoryUnit :=
  ⟨"start", [⟨none, .choice ⟨some "Where?", none, [⟨"Out", none⟩]⟩⟩,
    ⟨none, .dialogue ⟨some "mc", "Wait", none, [⟨" for me.", none⟩]⟩⟩,
    ⟨none, .titles ⟨"Later", none, none, none, none, false, none⟩⟩,
    ⟨none, .dialogue ⟨none, "You ran.", none, []⟩⟩]⟩

/-- Content with the unit and its speaker. -/
def chaseContent : Content :=
  ((Library.empty.addUnit chaseUnit).addCharacter
    "mc" ⟨[("name", .text "Mia")], .null, []⟩).toContent

/-- A log of two lines. -/
def chaseSettings : StorySettings := StorySettings.standard.withHistoryLimit 2

/-- The story before it begins. -/
def chaseLoaded : Interpreter :=
  Operation.performAll (.new chaseContent chaseSettings) [.loadCharacters ["mc"]]

/-- The choice, the parts of the line and the line itself are passed. -/
def chaseMoves : List Operation := [.select 0, .advance, .advance]

/-- The story on the card. -/
def chaseStory : Interpreter := Operation.performAll chaseLoaded (.start "start" :: chaseMoves)

/-- The save taken on the card, without the log. -/
def chaseSnapshot : Snapshot where
  unitId := "start"
  step := 2
  callStack := []
  visible := []
  scene := none
  history := none
  audio := []
  dialoguePart := none

/-- Resumed without its log on the card, the story has the log of the play, and the line behind the
card drops the oldest line of it. -/
theorem resumeFrom_rebuilt_chase :
    chaseStory.status = .titles none ∧
      chaseStory.snapshot =
        .ok { chaseSnapshot with history := some chaseStory.history.entries } ∧
      chaseStory.history.entries =
        [⟨.dialogue, "Mia", "Wait for me.", some 1⟩, ⟨.titles, "", "Later", some 2⟩] ∧
      (chaseLoaded.resumeFrom chaseSnapshot).after.history.entries =
        [⟨.titles, "", "Later", some 2⟩, ⟨.narration, "", "You ran.", some 3⟩] := by
  have names : ∀ passed ≤ chaseMoves.length, ∀ speaker ∈ chaseUnit.speakers,
      (Operation.performAll chaseLoaded
        (.start "start" :: chaseMoves.take passed)).displayName speaker =
          chaseLoaded.displayName speaker := by
    decide +kernel
  have steady : ∀ played, played <+: chaseMoves →
      (Operation.performAll chaseLoaded (.start "start" :: played)).Names chaseUnit
        chaseLoaded.displayName := by
    intro played first
    rw [List.prefix_iff_eq_take.1 first]
    exact names played.length first.length_le
  have waits : chaseStory.status = .titles none := by decide +kernel
  have taken : chaseStory.snapshot =
      .ok { chaseSnapshot with history := some chaseStory.history.entries } := rfl
  have reachable : chaseLoaded.Reachable chaseContent chaseSettings := ⟨_, rfl⟩
  have played : chaseStory.history.entries =
      [⟨.dialogue, "Mia", "Wait for me.", some 1⟩, ⟨.titles, "", "Later", some 2⟩] := by
    decide +kernel
  have behind : (chaseLoaded.resumeFrom
      { chaseSnapshot with history := some [] }).after.history.entries =
        [⟨.narration, "", "You ran.", some 3⟩] := by
    decide +kernel
  have loaded : chaseContent.unit? "start" = some chaseUnit := rfl
  have stands : Operation.performAll chaseLoaded (.start "start" :: chaseMoves) = chaseStory := rfl
  have limit : chaseStory.history.limit = 2 := by decide +kernel
  obtain ⟨-, log, -⟩ := resumeFrom_rebuilt reachable reachable rfl loaded (by decide +kernel)
    (by decide) steady stands (by rw [waits]; rfl) taken
  rw [limit, played] at log
  refine ⟨waits, taken, played, log.trans ?_⟩
  exact congrArg (fun lines => History.newest 2 (_ ++ lines)) behind

end VisualNovel.Interpreter
