import VisualNovel.Proofs.Session.Operation

/-!
# Loading a saved game

A load puts the story back to where it was saved, and makes the rules forget what they saw before it
evaluates them. So every enabled rule fires whose conditions hold in the restored game, also one
that had fired for the same reason before the save. The story stays at the saved place without any
rule firing exactly when no enabled rule holds there.
-/

namespace VisualNovel.Session

variable {content : Content} {settings : StorySettings} {session : Session}

/-! ## The store -/

theorem get?_insertSlot (slots : Slots) (slot : Nat) (file : SaveFile) :
    Slots.get? (Slots.insert slot file slots) slot = some file := by
  induction slots with
  | nil => simp [Slots.insert, Slots.get?]
  | cons entry slots ih =>
      obtain ⟨other, kept⟩ := entry
      simp only [Slots.insert]
      split
      · simp [Slots.get?]
      · split
        · simp [Slots.get?]
        · rename_i different _
          simp only [Slots.get?]
          rw [if_neg fun same => different same.symm]
          exact ih

/-- A save writes the record of the story into the slot. -/
theorem save_ok {slot : Nat} {name : Option String} {file : SaveFile} {after : Session}
    (saved : session.save slot name = (.ok file, after)) :
    ∃ game slots, session.codec.serialize session.interpreter = .ok game ∧
      file = SaveFile.new slot ((name.or session.playerName?).getD "") game
        session.interpreter.clock ∧
      session.slots.write file = .ok slots ∧ after = { session with slots } := by
  unfold Session.save at saved
  split at saved
  · cases saved
  · rename_i game serialized
    dsimp only at saved
    split at saved
    · cases saved
    · rename_i slots written
      cases saved
      exact ⟨game, slots, serialized, rfl, written, rfl⟩

theorem read_of_get? {store : MemoryStore} {slot : Nat} {file : SaveFile}
    (found : Slots.get? store.slots slot = some file) : store.read slot = .ok file := by
  simp only [MemoryStore.read]
  rw [found]

/-- A store in memory gives back what was saved last in a slot. -/
theorem read_saved {store : MemoryStore} {slot : Nat} {name : Option String} {file : SaveFile}
    {after : Session} (memory : session.slots = .memory store)
    (saved : session.save slot name = (.ok file, after)) : after.slots.read slot = .ok file := by
  obtain ⟨game, slots, -, rfl, written, rfl⟩ := save_ok saved
  rw [memory] at written
  simp only [SlotStore.write, MemoryStore.write, SaveFile.ensureFinite] at written
  split at written
  · cases written
  · cases written
    exact read_of_get? (get?_insertSlot ..)

/-! ## The course of a load -/

/-- Bringing the roster into play moves neither the story nor the rules. -/
theorem prepare_eq (session : Session) :
    ∃ state visible events codec running, session.prepare.2 = { session with
      stage := { session.stage with
        interpreter := { session.interpreter with state, visible, events } }
      codec
      rules := { session.rules with running } } := by
  have captured : ∀ session : Session, ∃ codec running, session.captured =
      { session with codec, rules := { session.rules with running } } := by
    intro session
    simp only [Session.captured]
    split
    · exact ⟨_, true, rfl⟩
    · exact ⟨_, session.rules.running, rfl⟩
  simp only [Session.prepare]
  split
  · obtain ⟨codec, running, same⟩ := captured session
    exact ⟨session.interpreter.state, session.interpreter.visible, session.interpreter.events, codec,
      running, same⟩
  · obtain ⟨state, visible, events, loads⟩ :=
      Interpreter.loadCharacters_eq session.interpreter session.missingCharacters
    split
    · rename_i cause after failed
      rw [failed] at loads
      change after = _ at loads
      rw [loads]
      exact ⟨state, visible, events, session.codec, session.rules.running, rfl⟩
    · rename_i ids after succeeded
      rw [succeeded] at loads
      change after = _ at loads
      rw [loads]
      obtain ⟨codec, running, same⟩ := captured
        (session.withInterpreter { session.interpreter with state, visible, events })
      exact ⟨state, visible, events, codec, running, same⟩

/-- The session in which a load evaluates the rules: the record is restored, and the rules have seen
nothing. -/
def restored (session : Session) (game : SaveRecord) : Session :=
  let ready := session.prepare.2
  let restored := ready.codec.restore game ready.interpreter
  { ready with
    stage := { ready.stage with interpreter := restored.interpreter, notifications := [] }
    codec := restored.codec
    rules := ready.rules.reset
    evaluated := none }

/-- A load fails before the rules are evaluated, or else it concludes with them. -/
theorem load_eq {slot : Nat} {file : SaveFile} (read : session.slots.read slot = .ok file) :
    (∃ error, session.load slot = session.prepare.2.refuse error) ∨
      (∃ error, (session.prepare.2.codec.restore file.game
          session.prepare.2.interpreter).result = .error error ∧
        session.load slot = ({ session.restored file.game with
          evaluated := session.prepare.2.evaluated }).refuse (.save error)) ∨
      (∃ status, (session.prepare.2.codec.restore file.game
          session.prepare.2.interpreter).result = .ok status ∧
        session.load slot = (session.restored file.game).conclude) := by
  simp only [Session.load]
  rw [read]
  dsimp only
  split
  · rename_i error after failed
    exact .inl ⟨error, by rw [failed]⟩
  · rename_i ready prepared
    right
    have same : session.prepare.2 = ready := by rw [prepared]
    simp only [Session.restored]
    rw [same]
    simp only [Session.restore]
    split
    · rename_i cause failed
      exact .inl ⟨cause, failed, rfl⟩
    · rename_i status succeeded
      exact .inr ⟨status, succeeded, rfl⟩

/-- A session that saw no state yet evaluates its rules. -/
theorem conclude_unseen (unseen : session.evaluated = none) :
    session.conclude.after.rules =
        (session.rules.evaluateAt session.stage session.interpreter.clock).1 ∧
      session.conclude.after.stage =
        (session.rules.evaluateAt session.stage session.interpreter.clock).2.1 := by
  unfold conclude evaluateRules isPassDue
  rw [unseen]
  cases running : session.rules.running with
  | true => exact ⟨rfl, rfl⟩
  | false =>
      simp only [RuleEngine.evaluateAt]
      rw [running]
      exact ⟨rfl, rfl⟩

/-- A session whose rules forgot what they saw fires exactly the rules that hold. The story stands
still when there are none. -/
theorem conclude_reset {engine : RuleEngine Stage} (forgot : session.rules = engine.reset)
    (unseen : session.evaluated = none) :
    session.conclude.after.rules.rules = (engine.rules.map fun rule =>
        if engine.running && rule.isHeld session.stage then
          rule.withoutStatistics.triggered session.interpreter.clock
        else rule.withoutStatistics) ∧
      ((∀ rule ∈ session.conclude.after.rules.rules, rule.triggerCount = 0) ↔
        (engine.running = true → ∀ rule ∈ engine.rules, rule.isHeld session.stage = false)) ∧
      ((engine.running = true → ∀ rule ∈ engine.rules, rule.isHeld session.stage = false) →
        session.conclude.after.stage = session.stage) := by
  obtain ⟨rules, stage⟩ := conclude_unseen unseen
  rw [rules, stage, forgot]
  exact ⟨RuleEngine.evaluateAt_reset_rules .., RuleEngine.evaluateAt_reset_untriggered ..,
    RuleEngine.evaluateAt_reset_host⟩

/-- A load behind a save. When it fails, the story stands where it stood and no rule has fired.
Otherwise the story is put back to its place with its global map, and exactly the enabled rules fire
whose conditions hold there; what they saw before the save does not count. So no rule fires and the
story keeps its place exactly when no enabled rule holds in the restored game. -/
theorem load_after_save {slots : SlotStore} {configuration : Configuration}
    {operations : List SessionOperation} {slot : Nat} {name : Option String} {file : SaveFile}
    {after : Session} {status : Status}
    (reached : session =
      SessionOperation.performAll (.new content slots configuration) operations)
    (waits : session.interpreter.pause? = some status)
    (saved : session.save slot name = (.ok file, after))
    (stored : after.slots.read slot = .ok file) :
    let loaded := after.load slot
    let restored := after.restored file.game
    (∃ error, loaded.result = .error error ∧
      loaded.after.interpreter.place = session.interpreter.place ∧
      (loaded.after.rules.rules = session.rules.rules ∨
        loaded.after.rules.rules = session.rules.rules.map Rule.withoutStatistics)) ∨
    (∃ status, loaded.result = .ok status ∧
      restored.interpreter.place = session.interpreter.place ∧
      restored.interpreter.state.global = session.interpreter.state.global ∧
      restored.stage.location = session.stage.location ∧
      loaded.after.rules.rules = (session.rules.rules.map fun rule =>
        if restored.rules.running && rule.isHeld restored.stage then
          rule.withoutStatistics.triggered restored.interpreter.clock
        else rule.withoutStatistics) ∧
      (((∀ rule ∈ loaded.after.rules.rules, rule.triggerCount = 0) ∧
          loaded.after.interpreter.place = session.interpreter.place) ↔
        (restored.rules.running = true →
          ∀ rule ∈ session.rules.rules, rule.isHeld restored.stage = false))) := by
  have sound : session.Sound content configuration.storySettings := by
    rw [reached]
    exact (new_sound content slots configuration).performAll operations
  obtain ⟨game, written, serialized, named, -, rfl⟩ := save_ok saved
  obtain rfl : file.game = game := by rw [named]; rfl
  have target : Sound content configuration.storySettings { session with slots := written } :=
    ⟨sound.interpreter, sound.rules⟩
  have room : 0 < configuration.storySettings.maxAutoSteps := Nat.le_max_right ..
  have restores := SaveCodec.restore_place sound.interpreter target.prepare.interpreter room waits
    serialized (prepare { session with slots := written }).2.codec
  obtain ⟨state, visible, events, codec, running, ready⟩ :=
    prepare_eq { session with slots := written }
  have rules : (prepare { session with slots := written }).2.rules.rules = session.rules.rules := by
    rw [ready]
  have standing : (prepare { session with slots := written }).2.interpreter.place =
      session.interpreter.place := by rw [ready]; rfl
  have location : (prepare { session with slots := written }).2.stage.location =
      session.stage.location := by rw [ready]
  clear ready
  intro loaded restored
  rcases load_eq stored with ⟨error, same⟩ | ⟨error, failed, same⟩ | ⟨ok, succeeded, same⟩
  · left
    have refused : loaded = _ := same
    rw [refused]
    exact ⟨error, rfl, standing, .inl rules⟩
  · left
    have refused : loaded = _ := same
    rcases restores with ⟨cause, -, place⟩ | ⟨result, -⟩
    · rw [refused]
      refine ⟨_, rfl, place.trans standing, .inr ?_⟩
      change List.map Rule.withoutStatistics _ = _
      rw [rules]
    · rw [failed] at result
      cases result
  · right
    have concluded : loaded = restored.conclude := same
    have forgot : restored.rules = (prepare { session with slots := written }).2.rules.reset := rfl
    obtain ⟨fired, untriggered, still⟩ := conclude_reset forgot rfl
    rw [rules] at fired untriggered still
    rcases restores with ⟨cause, failed, -⟩ | ⟨-, place, global⟩
    · rw [succeeded] at failed
      cases failed
    · rw [concluded]
      refine ⟨_, rfl, place, global, location, fired, ?_⟩
      constructor
      · rintro ⟨quiet, -⟩
        exact untriggered.1 quiet
      · intro quiet
        constructor
        · exact untriggered.2 quiet
        · change restored.conclude.after.stage.interpreter.place = _
          rw [still quiet]
          exact place

/-- A rule that redirects the story when the tank becomes full. -/
def tankRule : Rule Stage :=
  { Rule.new "tank" with
    mode := .onChange
    conditions := [⟨.variable "global.tank" (some .eq) (.text "full"), false⟩]
    actions := [.goto "death"] }

/-- Content with a unit that the rule redirects to. -/
def tankContent : Content :=
  ((Library.empty.addUnit ⟨"start", [⟨none, .dialogue ⟨none, "Here", none, []⟩⟩,
    ⟨none, .dialogue ⟨none, "There", none, []⟩⟩]⟩).addUnit
    ⟨"death", [⟨none, .dialogue ⟨none, "You died.", none, []⟩⟩]⟩).toContent

/-- The session in which the rule has fired. -/
def tankSession : Session :=
  SessionOperation.performAll
    (.new tankContent (.memory .empty) { Configuration.standard with roster := [] })
    [.registerRules [tankRule] (by
        intro rule member
        rw [List.mem_singleton.1 member]
        refine ⟨?_, fun run absent => by cases absent⟩
        intro action listed
        rw [List.mem_singleton.1 listed]
        exact RuleAction.tame_of_plain fun run absent => by cases absent),
      .start none, .interpreter (.edit fun state => (state.write "global.tank" (.text "full")).1),
      .advance]

/-- The rule was seen to hold and would not fire again, but it fires when the game is loaded right
after a save, and takes the story away from its place. -/
theorem load_after_save_tank :
    ∃ file after, tankSession.interpreter.pause? = some .dialogue ∧
      tankSession.save 1 (some "Mia") = (.ok file, after) ∧ after.slots.read 1 = .ok file ∧
      tankSession.isPassDue = false ∧
      (tankSession.rules.evaluateAt tankSession.stage 0).2.2 = [] ∧
      (after.load 1).after.rules.rules.map Rule.triggerCount = [1] ∧
      (after.load 1).after.interpreter.place ≠ tankSession.interpreter.place ∧
      ¬ ∀ rule ∈ tankSession.rules.rules, rule.isHeld (after.restored file.game).stage = false := by
  have ok : (tankSession.save 1 (some "Mia")).1.isOk = true := by decide +kernel
  have fires : ((tankSession.save 1 (some "Mia")).2.load 1).after.rules.rules.map
      Rule.triggerCount = [1] := by decide +kernel
  have moves : ((tankSession.save 1 (some "Mia")).2.load 1).after.interpreter.place ≠
      tankSession.interpreter.place := by decide +kernel
  have succeeds : ((tankSession.save 1 (some "Mia")).2.load 1).result.isOk = true := by
    decide +kernel
  generalize saved : tankSession.save 1 (some "Mia") = outcome at ok fires moves succeeds
  obtain ⟨result, after⟩ := outcome
  cases result with
  | error cause => cases ok
  | ok file =>
      have stored := read_saved rfl saved
      refine ⟨file, after, rfl, rfl, stored, rfl, by decide +kernel, fires, moves, ?_⟩
      rcases load_after_save rfl rfl saved stored with ⟨error, failed, -⟩ | ⟨_, -, -, -, -, -, fired⟩
      · rw [failed] at succeeds
        cases succeeds
      · intro quiet
        exact moves (fired.2 fun _ => quiet).2

end VisualNovel.Session
