import VisualNovel.Proofs.Rules.Scripts
import VisualNovel.Proofs.Saves.Forgetting
import VisualNovel.Proofs.Session.Lasting
import VisualNovel.Proofs.Session.Loading

/-!
# New games

A new game begins in a session that was played before, as the first game begins in a new session.
The story, the state, the streams and all that is known of the rules are as if nothing had been
played. The place of the player is not: it stays where it was, and the rules see it from the first
pass on.
-/

namespace VisualNovel

open AudioRegistry (SoundsAlike)

variable {content : Content} {settings : StorySettings} {now : Instant}
variable {heard : AudioRegistry → AudioRegistry → Prop}

/-- A pause is in effect in both registries or in neither, and the same streams play in them but for
generated identifiers. -/
def Content.HeardAlike (content : Content) (first second : AudioRegistry) : Prop :=
  second.paused = first.paused ∧ (content.NamesPlainly → SoundsAlike first second)

theorem Content.tunes_heardAlike (content : Content) : content.Tunes content.HeardAlike := by
  intro id story step first second loaded member alike
  obtain ⟨paused, sounds⟩ := alike
  refine ⟨?_, fun plain => plain.tunes id story step first second loaded member (sounds plain)⟩
  cases step.kind with
  | play channel cue =>
      simp only [StepKind.tuned, AudioRegistry.play]
      split <;> exact paused
  | stopStream stream => exact paused
  | stopAllStreams => rfl
  | _ => exact paused

/-! ## Sessions that are alike -/

/-- Two sessions of one game at one moment, with what is known of the same rules. -/
structure Session.Alike (content : Content) (settings : StorySettings)
    (heard : AudioRegistry → AudioRegistry → Prop) (now : Instant) (first second : Session) :
    Prop where
  stage : Stage.Alike content settings heard now first.stage second.stage
  rules : second.rules.rules = first.rules.rules
  seen : second.rules.seen = first.rules.seen
  codec : second.codec = first.codec
  configuration : second.configuration = first.configuration
  slots : second.slots = first.slots

/-- Two operations have the same result and lead to sessions that are alike. When they succeed, both
engines run or both rest. -/
structure SessionOutcome.Alike (content : Content) (settings : StorySettings)
    (heard : AudioRegistry → AudioRegistry → Prop) (now : Instant) (first second : SessionOutcome) :
    Prop where
  result : second.result = first.result
  session : Session.Alike content settings heard now first.after second.after
  running : first.result.isOk = true → second.after.rules.running = first.after.rules.running

namespace Session

variable {configuration : Configuration} {session first second : Session}

namespace Alike

variable (alike : Alike content settings heard now first second)
include alike

theorem withInterpreter {one two : Interpreter}
    (doubles : Interpreter.Doubles content settings heard now one two) :
    Alike content settings heard now (first.withInterpreter one) (second.withInterpreter two) :=
  { alike with stage := ⟨doubles, alike.stage.location, alike.stage.notifications⟩ }

theorem missingCharacters : second.missingCharacters = first.missingCharacters := by
  have members : (fun id => (second.interpreter.state.character? id).isNone) =
      fun id => (first.interpreter.state.character? id).isNone := by
    funext id
    have contents : first.interpreter.state.SameContents second.interpreter.state :=
      alike.stage.story.contents
    rw [contents.eq, StateTree.character?_revision]
  simp only [Session.missingCharacters]
  rw [members, alike.configuration]

/-- Behind the start of the rules, both engines are the same when neither ran where it must not. -/
theorem captured (lasting : first.Lasting configuration) (kept : second.Lasting configuration) :
    Alike content settings heard now first.captured second.captured ∧
      second.captured.rules = first.captured.rules := by
  have codec : second.codec.capture second.interpreter.state =
      first.codec.capture first.interpreter.state := by
    have contents : first.interpreter.state.SameContents second.interpreter.state :=
      alike.stage.story.contents
    simp only [SaveCodec.capture]
    rw [contents.1, alike.codec]
  have rules : second.captured.rules = first.captured.rules := by
    simp only [Session.captured]
    rw [alike.configuration, lasting.configured]
    split
    · simp only [RuleEngine.start]
      rw [alike.rules, alike.seen]
    · rename_i off
      -- An engine that was reset may still run, but not where rules are switched off.
      have rests : ∀ {session : Session}, session.Lasting configuration →
          session.rules.running = false := by
        intro session lasting
        rw [Bool.eq_false_iff]
        exact fun running => off (lasting.enabled running)
      have running := (rests kept).trans (rests lasting).symm
      have rules := alike.rules
      have seen := alike.seen
      generalize second.rules = engine at running rules seen
      obtain ⟨_, _, _⟩ := engine
      cases rules
      cases seen
      cases running
      rfl
  refine ⟨⟨alike.stage, ?_, ?_, codec, alike.configuration, alike.slots⟩, rules⟩
  · rw [rules]
  · rw [rules]

/-- Both bring the roster into play or fail to do so for the same reason. -/
theorem prepare (lasting : first.Lasting configuration) (kept : second.Lasting configuration) :
    second.prepare.1 = first.prepare.1 ∧
      Alike content settings heard now first.prepare.2 second.prepare.2 ∧
      (first.prepare.1.isOk = true → second.prepare.2.rules = first.prepare.2.rules) := by
  have missing := alike.missingCharacters
  simp only [Session.prepare]
  rw [missing]
  split
  · obtain ⟨captured, rules⟩ := alike.captured lasting kept
    exact ⟨rfl, captured, fun _ => rules⟩
  · have loads := alike.stage.story.loadCharacters first.missingCharacters
    change (second.interpreter.loadCharacters _).1 = (first.interpreter.loadCharacters _).1 ∧
      Interpreter.Doubles content settings heard now (first.interpreter.loadCharacters _).2
        (second.interpreter.loadCharacters _).2 at loads
    generalize first.interpreter.loadCharacters first.missingCharacters = one at loads
    generalize second.interpreter.loadCharacters first.missingCharacters = two at loads
    obtain ⟨result, one⟩ := one
    obtain ⟨other, two⟩ := two
    obtain ⟨same, loaded⟩ := loads
    dsimp only at same loaded
    subst same
    have moved := alike.withInterpreter loaded
    cases other with
    | error cause => exact ⟨rfl, moved, fun ok => by cases ok⟩
    | ok ids =>
        obtain ⟨captured, rules⟩ := moved.captured (lasting.of_eq rfl rfl rfl)
          (kept.of_eq rfl rfl rfl)
        exact ⟨rfl, captured, fun _ => rules⟩

/-- The passes of two engines that have seen nothing are the same. -/
theorem conclude (tunes : content.Tunes heard) (rules : second.rules = first.rules)
    (unseen : first.evaluated = none) (blind : second.evaluated = none)
    (scripted : ∀ rule ∈ first.rules.rules, rule.Scripted) :
    SessionOutcome.Alike content settings heard now first.conclude second.conclude := by
  have clock : second.interpreter.clock = first.interpreter.clock :=
    alike.stage.story.still.clock.trans alike.stage.story.calm.clock.symm
  obtain ⟨same, stage⟩ := alike.stage.evaluateAt tunes scripted first.interpreter.clock
  obtain ⟨firstRules, firstStage⟩ := conclude_unseen unseen
  obtain ⟨secondRules, secondStage⟩ := conclude_unseen blind
  rw [rules, clock] at secondRules secondStage
  rw [← firstRules, ← secondRules] at same
  rw [← firstStage, ← secondStage] at stage
  have kept : ∀ session : Session, session.conclude.after.codec = session.codec ∧
      session.conclude.after.configuration = session.configuration ∧
      session.conclude.after.slots = session.slots := by
    intro session
    simp only [Session.conclude, Session.evaluateRules]
    split <;> exact ⟨rfl, rfl, rfl⟩
  obtain ⟨codec, configuration, slots⟩ := kept first
  obtain ⟨recodec, reconfiguration, reslots⟩ := kept second
  refine ⟨?_, ⟨stage, ?_, ?_, ?_, ?_, ?_⟩, fun _ => ?_⟩
  · exact congrArg Except.ok (stage.story.resembles.read Interpreter.status fun _ => rfl)
  · rw [same]
  · rw [same]
  · rw [recodec, alike.codec, codec]
  · rw [reconfiguration, alike.configuration, configuration]
  · rw [reslots, alike.slots, slots]
  · rw [same]

/-- Starts in sessions that are alike and have seen nothing end alike. -/
theorem start (tunes : content.Tunes heard) (lasting : first.Lasting configuration)
    (kept : second.Lasting configuration) (unseen : first.evaluated = none)
    (blind : second.evaluated = none) (scripted : ∀ rule ∈ first.rules.rules, rule.Scripted)
    (id : Option String) :
    SessionOutcome.Alike content settings heard now (first.start id) (second.start id) := by
  obtain ⟨result, ready, running⟩ := alike.prepare lasting kept
  obtain ⟨_, _, _, _, _, firstReady⟩ := prepare_eq first
  obtain ⟨_, _, _, _, _, secondReady⟩ := prepare_eq second
  have unseenReady : first.prepare.2.evaluated = none := by
    rw [firstReady]
    exact unseen
  have blindReady : second.prepare.2.evaluated = none := by
    rw [secondReady]
    exact blind
  have scriptedReady : ∀ rule ∈ first.prepare.2.rules.rules, rule.Scripted := by
    rw [firstReady]
    exact scripted
  clear firstReady secondReady
  simp only [Session.start]
  generalize first.prepare = one at *
  generalize second.prepare = two at *
  obtain ⟨outcome, one⟩ := one
  obtain ⟨other, two⟩ := two
  dsimp only at result ready running unseenReady blindReady scriptedReady
  subst result
  rw [alike.configuration]
  cases other with
  | error error => exact ⟨rfl, ready, fun ok => by cases ok⟩
  | ok =>
      dsimp only
      generalize id.getD first.configuration.startUnit = unit
      have begins := ready.stage.story.restart tunes (some unit)
      change (two.interpreter.start unit).result = (one.interpreter.start unit).result ∧
        Interpreter.Doubles content settings heard now (one.interpreter.start unit).after
          (two.interpreter.start unit).after at begins
      obtain ⟨same, story⟩ := begins
      have moved := ready.withInterpreter story
      simp only [Session.perform]
      rw [same]
      generalize one.interpreter.start unit = ended at moved ⊢
      cases ended.result with
      | error cause => exact ⟨rfl, moved, fun ok => by cases ok⟩
      | ok status => exact moved.conclude tunes (running rfl) unseenReady blindReady scriptedReady

end Alike

end Session

/-! ## The place of the player -/

/-- A host does not move the player. -/
theorem Stage.Driven.location {stage after : Stage} (driven : stage.Driven after) :
    after.location = stage.location := by
  induction driven with
  | same => rfl
  | write path value _ ih => exact ih
  | goto target _ ih => exact ih
  | endStory _ ih => exact ih
  | restart unitId _ ih => exact ih
  | showLine character text _ ih => exact ih
  | notify notification _ ih => exact ih

namespace Session

variable {configuration : Configuration} {session : Session}

/-- Neither a start nor the rules behind it move the player. -/
theorem Sound.start_location (sound : session.Sound content settings) (id : Option String) :
    (session.start id).after.stage.location = session.stage.location := by
  obtain ⟨_, _, _, _, _, same⟩ := prepare_eq session
  have stays : session.prepare.2.stage.location = session.stage.location := by rw [same]
  have tame := sound.prepare.rules
  clear same
  simp only [Session.start]
  generalize session.prepare = prepared at stays tame
  obtain ⟨result, ready⟩ := prepared
  cases result with
  | error error => exact stays
  | ok =>
      simp only [Session.perform]
      generalize ready.interpreter.start (id.getD session.configuration.startUnit) = ended
      cases ended.result with
      | error cause => exact stays
      | ok status =>
          change (ready.withInterpreter ended.after).evaluateRules.stage.location = _
          simp only [Session.evaluateRules]
          split
          · let kept (stage : Stage) : Prop := stage.location = session.stage.location
            have drives : ∀ rule ∈ ready.rules.rules, ∀ stage, kept stage →
                kept (rule.perform stage) :=
              fun rule known stage stays => ((tame rule known).perform stage).location.trans stays
            have moved : kept (ready.withInterpreter ended.after).stage := stays
            exact RuleEngine.evaluateAt_host drives moved _
          · exact stays

end Session

/-! ## New games -/

/-- Two operations have the same result and lead to games that go on alike: the stories, the rules
and the slots are the same but for revisions, the numbers of timers and generated identifiers. -/
structure SessionOutcome.Agrees (content : Content) (first second : SessionOutcome) : Prop where
  result : second.result = first.result
  /-- The position, the stack, the state, the scene, the cast, the screen, the log and the status.
  Only the number of parts may differ that no restore asks for. -/
  face : second.after.interpreter.face = { first.after.interpreter.face with
    restoreParts := second.after.interpreter.restoreParts }
  deadline : second.after.interpreter.timer.map TitleTimer.deadline =
    first.after.interpreter.timer.map TitleTimer.deadline
  clock : second.after.interpreter.clock = first.after.interpreter.clock
  audio : content.HeardAlike first.after.interpreter.audio second.after.interpreter.audio
  location : second.after.stage.location = first.after.stage.location
  notifications : second.after.stage.notifications = first.after.stage.notifications
  rules : second.after.rules.rules = first.after.rules.rules
  seen : second.after.rules.seen = first.after.rules.seen
  running : first.result.isOk = true → second.after.rules.running = first.after.rules.running
  codec : second.after.codec = first.after.codec
  configuration : second.after.configuration = first.after.configuration
  slots : second.after.slots = first.after.slots

theorem SessionOutcome.Alike.agrees {first second : SessionOutcome}
    (alike : Alike content settings content.HeardAlike now first second) :
    first.Agrees content second := by
  obtain ⟨result, ⟨⟨story, location, notifications⟩, rules, seen, codec, configuration, slots⟩,
    running⟩ := alike
  exact ⟨result, story.face, story.deadline, story.still.clock.trans story.calm.clock.symm,
    story.resembles.heard, location, notifications, rules, seen, running, codec, configuration,
    slots⟩

namespace Session

variable {configuration : Configuration} {session : Session}

/-- A new session at the same time, with the same content and slots, that has taken in the rules of
the old one. -/
def renewal (content : Content) (session : Session) : Except SessionError Unit × Session :=
  ((Session.new content session.slots session.configuration).atTime
    session.interpreter.clock).registerRules session.rules.rules

/-- The new session takes in all rules, as if they had never fired. -/
theorem Lasting.renewal_eq (lasting : session.Lasting configuration) (content : Content) :
    session.renewal content = (.ok (), { (Session.new content session.slots
        session.configuration).atTime session.interpreter.clock with
      rules := ⟨session.rules.rules.map Rule.withoutStatistics, [], false⟩ }) := by
  have named : RuleEngine.WellNamed ((RuleEngine.empty : RuleEngine Stage).rules ++
    session.rules.rules) := lasting.named
  have engine : ((Session.new content session.slots session.configuration).atTime
    session.interpreter.clock).rules = .empty := rfl
  simp only [renewal, Session.registerRules]
  rw [engine, named.registerAll_ok]
  rfl

theorem cleared_doubles (sound : session.Sound content settings) :
    Interpreter.Doubles content settings content.HeardAlike session.interpreter.clock
      { Interpreter.new content settings with clock := session.interpreter.clock }
      session.cleared.interpreter where
  resembles := by
    have source : session.interpreter.content = content := sound.interpreter.source
    have limits : session.interpreter.settings = settings := sound.interpreter.limits
    have log : session.interpreter.history.clear = History.new settings.historyLimit :=
      congrArg (History.mk []) sound.interpreter.limit
    constructor
    · simp only [Interpreter.face, Interpreter.withoutParts, Interpreter.mk.injEq, true_and,
        and_true]
      exact ⟨source, limits, rfl, rfl, rfl, rfl, rfl, rfl, rfl, log, rfl, rfl, rfl, rfl, rfl⟩
    · exact ⟨rfl, fun _ => .of_streams rfl⟩
  sound := (Interpreter.new_sound content settings).perform (.pass session.interpreter.clock)
  twin := sound.cleared.interpreter
  calm := .of_untimed rfl rfl rfl
  still := .of_untimed rfl rfl rfl

/-- A cleared session is as a new one whose player is at the same place. -/
theorem cleared_alike (sound : session.Sound content configuration.storySettings)
    (lasting : session.Lasting configuration) :
    Alike content configuration.storySettings content.HeardAlike session.interpreter.clock
      ((session.renewal content).2.moveTo session.stage.location) session.cleared := by
  obtain rfl := lasting.configured
  rw [lasting.renewal_eq]
  exact ⟨⟨cleared_doubles sound, rfl, rfl⟩, rfl, rfl, rfl, rfl, rfl⟩

/-- A new game in a session that a host can reach has the same result as the first game in a new
session with the same rules whose player was moved to the same place, and goes on like it. So it is
a fresh game exactly when the player is at no place. -/
theorem newGame_agrees {slots : SlotStore} {operations : List SessionOperation}
    (reached : session =
      SessionOperation.performAll (.new content slots configuration) operations)
    (scripted : ∀ rule ∈ session.rules.rules, rule.Scripted) :
    let renewal := session.renewal content
    renewal.1 = .ok () ∧
      ((renewal.2.moveTo session.stage.location).start none).Agrees content session.newGame ∧
      ((renewal.2.start none).Agrees content session.newGame ↔ session.stage.location = none) := by
  have sound : session.Sound content configuration.storySettings := by
    rw [reached]
    exact (new_sound content slots configuration).performAll operations
  have lasting : session.Lasting configuration := by
    rw [reached]
    exact (Lasting.new content slots configuration).performAll operations
  obtain rfl := lasting.configured
  intro renewal
  have renewed : renewal = _ := lasting.renewal_eq content
  -- The new session is reached by operations itself.
  let operations : List SessionOperation :=
    [.interpreter (.pass session.interpreter.clock), .registerRules session.rules.rules sound.rules]
  have fresh : renewal.2.Sound content session.configuration.storySettings :=
    (new_sound content session.slots session.configuration).performAll operations
  have lasts : renewal.2.Lasting session.configuration :=
    (Lasting.new content session.slots session.configuration).performAll operations
  have moved : (renewal.2.moveTo session.stage.location).evaluated = none := by
    rw [renewed]
    rfl
  have known : ∀ rule ∈ (renewal.2.moveTo session.stage.location).rules.rules, rule.Scripted := by
    rw [renewed]
    intro rule member
    obtain ⟨original, listed, rfl⟩ := List.mem_map.1 member
    exact (scripted original listed).withoutStatistics
  have agrees : ((renewal.2.moveTo session.stage.location).start none).Agrees content
      session.newGame :=
    ((cleared_alike sound lasting).start content.tunes_heardAlike
      (lasts.operation (.moveTo session.stage.location)) lasting.cleared moved rfl known
      none).agrees
  refine ⟨by rw [renewed], agrees, ?_, ?_⟩
  · intro same
    have stays : session.newGame.after.stage.location = session.stage.location :=
      sound.cleared.start_location none
    rw [← stays, same.location, fresh.start_location, renewed]
    rfl
  · intro nowhere
    rw [nowhere] at agrees
    have still : renewal.2.moveTo none = renewal.2 := by
      rw [renewed]
      rfl
    rw [still] at agrees
    exact agrees

/-- A rule that tells when the player is in the lab. -/
def labRule : Rule Stage :=
  { Rule.new "lab" with
    mode := .onChange
    conditions := [⟨.location .id (some .eq) (.text "lab"), false⟩]
    actions := [.notification ⟨"You are in the lab.", .info, none⟩] }

/-- A unit with a line. -/
def labContent : Content :=
  (Library.empty.addUnit ⟨"start", [⟨none, .dialogue ⟨none, "A street.", none, []⟩⟩]⟩).toContent

/-- The session of a player who went into the lab. -/
def labSession : Session :=
  SessionOperation.performAll
    (.new labContent (.memory .empty) { Configuration.standard with roster := [] })
    [.registerRules [labRule] (Rule.tame_of_notification rfl rfl), .start none,
      .moveTo (some (.text "lab"))]

theorem labRule_scripted (now : Instant) : (labRule.triggered now).Scripted where
  conditions := by
    intro condition listed holds custom
    rw [List.mem_singleton.1 listed] at custom
    cases custom
  actions := by
    intro action listed run callback
    rw [List.mem_singleton.1 listed] at callback
    cases callback
  after := fun run absent => by cases absent

/-- The new game begins in the street, but its player is still in the lab, and the rule fires as it
does in no first game. -/
theorem newGame_agrees_lab :
    labSession.stage.location = some (.text "lab") ∧
      (labSession.renewal labContent).1 = .ok () ∧
      labSession.newGame.after.interpreter.screen.narration = "A street." ∧
      labSession.newGame.after.stage.notifications ≠ [] ∧
      ((labSession.renewal labContent).2.start none).after.stage.notifications = [] ∧
      ¬ ((labSession.renewal labContent).2.start none).Agrees labContent labSession.newGame ∧
      (((labSession.renewal labContent).2.moveTo (some (.text "lab"))).start none).Agrees labContent
        labSession.newGame := by
  have location : labSession.stage.location = some (.text "lab") := rfl
  have street : labSession.newGame.after.interpreter.screen.narration = "A street." := by
    decide +kernel
  have notified : labSession.newGame.after.stage.notifications ≠ [] := by decide +kernel
  have quiet : ((labSession.renewal labContent).2.start none).after.stage.notifications = [] := by
    decide +kernel
  have rules : labSession.rules.rules = [labRule.triggered 0] := rfl
  have scripted : ∀ rule ∈ labSession.rules.rules, rule.Scripted := by
    rw [rules]
    intro rule member
    rw [List.mem_singleton.1 member]
    exact labRule_scripted 0
  obtain ⟨registered, agrees, fresh⟩ := newGame_agrees (rfl : labSession = _) scripted
  rw [location] at agrees fresh
  exact ⟨location, registered, street, notified, quiet, (fun same => by cases fresh.1 same), agrees⟩

end Session

end VisualNovel
