import VisualNovel.Proofs.Interpreter.Position
import VisualNovel.Proofs.Session.Loading
import VisualNovel.Proofs.State.Contents

/-!
# Loads that fail

A load reads its slot before it changes anything, and asks for the unit of the record after
everything else. When the content does not have this unit, the story stands where it stood, but in
the state of the record, and what the rules saw and what was to be notified is gone.
-/

namespace VisualNovel.Session

open SaveCodec (laid overlaid)

variable {content : Content} {settings : StorySettings} {session : Session}
variable {slot : Nat} {file : SaveFile} {cause : ContentError}

/-- The game goes on behind one session as it does behind another. -/
structure Continues (before after : Session) : Prop where
  contents : before.interpreter.state.SameContents after.interpreter.state
  place : after.interpreter.place = before.interpreter.place
  screen : after.interpreter.screen = before.interpreter.screen
  status : after.interpreter.status = before.interpreter.status
  continuations : after.interpreter.continuations = before.interpreter.continuations
  history : after.interpreter.history = before.interpreter.history
  audio : after.interpreter.audio = before.interpreter.audio
  seen : after.rules.seen = before.rules.seen
  statistics : after.rules.rules = before.rules.rules
  notifications : after.stage.notifications = before.stage.notifications

/-- The interpreter with the roster and the characters of a record in play. -/
def recast (session : Session) (game : SaveRecord) : Interpreter :=
  let ready := session.prepare.2
  (ready.interpreter.loadCharacters (ready.codec.roster game ready.interpreter.state)).2

/-- A load finds everything that it needs but the unit of the record. -/
structure Strands (content : Content) (session : Session) (slot : Nat) (file : SaveFile)
    (cause : ContentError) : Prop where
  read : session.slots.read slot = .ok file
  prepared : session.prepare.1.isOk = true
  finite : file.game.nonFinite? = none
  loaded : (session.prepare.2.interpreter.loadCharacters
    (session.prepare.2.codec.roster file.game session.prepare.2.interpreter.state)).1.isOk = true
  lost : content.storyUnit file.game.unitId = .error cause

/-! ## The slots -/

theorem perform_slots (session : Session) (operation : Interpreter → Outcome) :
    (session.perform operation).after.slots = session.slots := by
  simp only [Session.perform]
  split
  · rfl
  · change (session.withInterpreter (operation session.interpreter).after).evaluateRules.slots = _
    simp only [Session.evaluateRules]
    split <;> rfl

/-- A start leaves the slots alone. -/
theorem start_slots (session : Session) (id : Option String) :
    (session.start id).after.slots = session.slots := by
  obtain ⟨state, visible, events, codec, running, ready⟩ := prepare_eq session
  have prepared : session.prepare.2.slots = session.slots := by rw [ready]
  simp only [Session.start]
  split
  · rename_i error after failed
    rw [failed] at prepared
    exact prepared
  · rename_i after succeeded
    rw [succeeded] at prepared
    exact (perform_slots after _).trans prepared

/-! ## The stages of a load -/

theorem load_unread {error : SaveError} (unread : session.slots.read slot = .error error) :
    session.load slot = session.refuse (.save error) := by
  simp only [Session.load]
  rw [unread]

/-- The characters of a record change the state, and which of the shown characters are in play. -/
theorem recast_eq (session : Session) (game : SaveRecord) :
    ∃ visible events, session.recast game =
      { session.interpreter with state := (session.recast game).state, visible, events } := by
  obtain ⟨state, visible, events, codec, running, ready⟩ := prepare_eq session
  obtain ⟨grown, shown, announced, same⟩ := Interpreter.loadCharacters_eq
    session.prepare.2.interpreter
    (session.prepare.2.codec.roster game session.prepare.2.interpreter.state)
  have story : session.prepare.2.interpreter =
      { session.interpreter with state, visible, events } := by
    rw [ready]
    rfl
  refine ⟨shown, announced, ?_⟩
  simp only [recast]
  rw [same, story]

/-- A restore of a record whose unit is lost leaves the record's state behind. -/
theorem Strands.restore (strands : Strands content session slot file cause)
    (supplied : session.interpreter.Supplied content) :
    (session.prepare.2.codec.restore file.game session.prepare.2.interpreter).result =
        .error (.story (.content cause)) ∧
      (session.prepare.2.codec.restore file.game session.prepare.2.interpreter).interpreter =
        laid file.game (session.recast file.game) := by
  obtain ⟨visible, events, recast⟩ := recast_eq session file.game
  have loaded := strands.loaded
  generalize ends : session.prepare.2.interpreter.loadCharacters
    (session.prepare.2.codec.roster file.game session.prepare.2.interpreter.state) = cast at loaded
  obtain ⟨result, ready⟩ := cast
  have same : session.recast file.game = ready := congrArg Prod.snd ends
  cases result with
  | error error => cases loaded
  | ok ids =>
      have lost : (laid file.game ready).fetchUnit (SaveCodec.position file.game).unitId =
          (.error cause, laid file.game ready) := by
        apply Interpreter.Supplied.fetchUnit_lost _ strands.lost
        rw [← same, recast]
        exact { supplied with }
      have refused : (laid file.game ready).resumeFrom (SaveCodec.position file.game) =
          (laid file.game ready).refuse (.content cause) := by
        simp only [Interpreter.resumeFrom]
        rw [lost]
      rw [SaveCodec.restore_eq strands.finite ends, refused, same]
      exact ⟨rfl, rfl⟩

/-- A restore that fails has reset the rules and dropped what was to be notified. -/
theorem restore_failed {game : SaveRecord} {error : SaveError}
    (failed : (session.codec.restore game session.interpreter).result = .error error) :
    session.restore game = ({ session with
      stage := { session.stage with
        interpreter := (session.codec.restore game session.interpreter).interpreter
        notifications := [] }
      codec := (session.codec.restore game session.interpreter).codec
      rules := session.rules.reset }).refuse (.save error) := by
  simp only [Session.restore]
  split
  · rename_i cause refused
    have same := refused.symm.trans failed
    cases same
    rfl
  · rename_i status succeeded
    have same := succeeded.symm.trans failed
    cases same

/-- A load of a record whose unit is lost fails with the story in the record's state. -/
theorem Strands.load (strands : Strands content session slot file cause)
    (supplied : session.interpreter.Supplied content) :
    ∃ codec, session.load slot = ({ session with
      stage := { session.stage with
        interpreter := laid file.game (session.recast file.game), notifications := [] }
      codec
      rules := session.prepare.2.rules.reset }).refuse (.save (.story (.content cause))) := by
  obtain ⟨failed, interpreter⟩ := strands.restore supplied
  obtain ⟨state, visible, events, codec, running, ready⟩ := prepare_eq session
  have prepared : session.prepare = (.ok (), session.prepare.2) := by
    have ok := strands.prepared
    generalize session.prepare = outcome at ok
    obtain ⟨error | _, after⟩ := outcome
    · cases ok
    · rfl
  refine ⟨(session.prepare.2.codec.restore file.game session.prepare.2.interpreter).codec, ?_⟩
  simp only [Session.load]
  rw [strands.read]
  dsimp only
  rw [prepared]
  dsimp only
  rw [restore_failed failed, interpreter]
  rw [ready]

/-- A load that finds no save file changes nothing. A load that finds everything but the unit of the
record puts the record's characters and global map into the state, makes the rules forget what they
saw and drops what was to be notified; it moves the story in nothing else. So the game goes on
behind it as before exactly when the record holds the present state, the rules have seen nothing,
and no notification waits. -/
theorem performAll_load_lost {slots : SlotStore} {configuration : Configuration}
    {operations : List SessionOperation} (slot : Nat)
    (reached : session =
      SessionOperation.performAll (.new content slots configuration) operations) :
    let loaded := session.load slot
    (∀ error, session.slots.read slot = .error error →
      loaded = session.refuse (.save error) ∧ session.Continues loaded.after) ∧
    (∀ file cause, Strands content session slot file cause →
      let state := overlaid file.game (session.recast file.game).state
      loaded.result = .error (.save (.story (.content cause))) ∧
      (∃ visible events, loaded.after.interpreter =
        { session.interpreter with state, visible, events }) ∧
      loaded.after.slots = session.slots ∧
      loaded.after.stage.location = session.stage.location ∧
      loaded.after.evaluated = session.evaluated ∧
      loaded.after.stage.notifications = [] ∧
      loaded.after.rules.seen = [] ∧
      loaded.after.rules.rules = session.rules.rules.map Rule.withoutStatistics ∧
      (session.Continues loaded.after ↔
        session.interpreter.state.SameContents state ∧ session.rules.seen = [] ∧
          session.rules.rules.map Rule.withoutStatistics = session.rules.rules ∧
          session.stage.notifications = [])) := by
  have sound : session.Sound content configuration.storySettings := by
    rw [reached]
    exact (new_sound content slots configuration).performAll operations
  intro loaded
  constructor
  · intro error unread
    have refused : loaded = session.refuse (.save error) := load_unread unread
    rw [refused]
    exact ⟨rfl, .refl _, rfl, rfl, rfl, rfl, rfl, rfl, rfl, rfl, rfl⟩
  · intro file cause strands state
    obtain ⟨codec, failed⟩ := strands.load sound.interpreter.supplied
    obtain ⟨visible, events, recast⟩ := recast_eq session file.game
    have story : laid file.game (session.recast file.game) =
        { session.interpreter with state, visible, events } := by
      simp only [laid]
      rw [recast]
    obtain ⟨_, _, _, _, running, ready⟩ := prepare_eq session
    have rules : session.prepare.2.rules.reset.rules =
        session.rules.rules.map Rule.withoutStatistics := by
      rw [ready]
      rfl
    have same : loaded = _ := failed
    rw [same, story]
    refine ⟨rfl, ⟨visible, events, rfl⟩, rfl, rfl, rfl, rfl, rfl, rules, ?_⟩
    constructor
    · intro continues
      exact ⟨continues.contents, continues.seen.symm, rules.symm.trans continues.statistics,
        continues.notifications.symm⟩
    · rintro ⟨contents, seen, statistics, notifications⟩
      exact ⟨contents, rfl, rfl, rfl, rfl, rfl, rfl, seen.symm, rules.trans statistics,
        notifications.symm⟩

/-- A rule that tells of the first coin. -/
def coinRule : Rule Stage :=
  { Rule.new "coin" with
    conditions := [⟨.variable "global.coins" (some .eq) (.text "one"), false⟩]
    actions := [.notification ⟨"Your first coin.", .info, none⟩] }

/-- A unit in which a coin is found. -/
def coinContent : Content :=
  (Library.empty.addUnit ⟨"start", [⟨none, .assign "global.coins = one"⟩,
    ⟨none, .dialogue ⟨none, "A coin!", none, []⟩⟩]⟩).toContent

/-- A save file of a unit that the content does not have. -/
def lostFile : SaveFile :=
  .new 1 "Mia" { SaveRecord.empty with
    unitId := "mint", global := [("coins", .text "many")] } 0

/-- The slots with the lost unit. -/
def lostSlots : SlotStore := .memory ⟨[(1, lostFile)]⟩

/-- The session behind the coin. -/
def coinSession : Session :=
  SessionOperation.performAll
    (.new coinContent lostSlots { Configuration.standard with roster := [] })
    [.registerRules [coinRule] (Rule.tame_of_notification rfl rfl),
      .start none]

/-- The load of the lost unit fails, and leaves its coins and an unread rule behind. The load of an
empty slot leaves the game as it was. -/
theorem performAll_load_lost_coin :
    ∃ cause, Strands coinContent coinSession 1 lostFile cause ∧
      (coinSession.load 1).result = .error (.save (.story (.content cause))) ∧
      coinSession.interpreter.state.substitute "{global.coins}" = "one" ∧
      (coinSession.load 1).after.interpreter.state.substitute "{global.coins}" = "many" ∧
      coinSession.rules.seen = [("coin", true)] ∧ (coinSession.load 1).after.rules.seen = [] ∧
      coinSession.stage.notifications ≠ [] ∧
      (coinSession.load 1).after.stage.notifications = [] ∧
      ¬ coinSession.Continues (coinSession.load 1).after ∧
      coinSession.slots.read 2 = .error (.slotNotFound 2) ∧
      coinSession.Continues (coinSession.load 2).after := by
  have seen : coinSession.rules.seen = [("coin", true)] := by decide +kernel
  have notified : coinSession.stage.notifications ≠ [] := by decide +kernel
  have coins : coinSession.interpreter.state.substitute "{global.coins}" = "one" := by
    decide +kernel
  have many : (coinSession.load 1).after.interpreter.state.substitute "{global.coins}" = "many" := by
    decide +kernel
  have roster : (coinSession.prepare.2.interpreter.loadCharacters
      (coinSession.prepare.2.codec.roster lostFile.game
        coinSession.prepare.2.interpreter.state)).1.isOk = true := by decide +kernel
  have lost : ∃ cause, coinContent.storyUnit lostFile.game.unitId = .error cause := by
    have unit : (coinContent.storyUnit lostFile.game.unitId).isOk = false := by decide +kernel
    cases result : coinContent.storyUnit lostFile.game.unitId with
    | error cause => exact ⟨cause, rfl⟩
    | ok story =>
        rw [result] at unit
        cases unit
  obtain ⟨cause, lost⟩ := lost
  have stored : coinSession.slots = lostSlots := by
    simp only [coinSession, SessionOperation.performAll, List.foldl_cons, List.foldl_nil,
      SessionOperation.perform]
    rw [start_slots]
    rfl
  have strands : Strands coinContent coinSession 1 lostFile cause :=
    ⟨by rw [stored]; rfl, by decide +kernel, by decide +kernel, roster, lost⟩
  have empty : coinSession.slots.read 2 = .error (.slotNotFound 2) := by
    rw [stored]
    rfl
  obtain ⟨-, loses⟩ := performAll_load_lost 1 (rfl : coinSession = _)
  obtain ⟨result, -, -, -, -, notifications, forgotten, -, continues⟩ :=
    loses lostFile cause strands
  obtain ⟨unread, -⟩ := performAll_load_lost 2 (rfl : coinSession = _)
  refine ⟨cause, strands, result, coins, many, seen, forgotten, notified, notifications, ?_, empty,
    (unread (.slotNotFound 2) empty).2⟩
  intro goes
  exact notified (continues.1 goes).2.2.2

end VisualNovel.Session
