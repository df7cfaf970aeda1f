import VisualNovel.Proofs.Rules.Firing
import VisualNovel.Proofs.Rules.Tame
import VisualNovel.Proofs.Saves.Restoring
import VisualNovel.Session.Basic

/-!
# The operations of a session

A host drives a session by the operations of this module and may reach through to the interpreter
between them. Rules act on the stage only as a host may, so the interpreter of a session stays sound
whatever its rules do.
-/

namespace VisualNovel

/-- What can be done with a session. -/
inductive SessionOperation where
  | registerRules (rules : List (Rule Stage)) (tame : ∀ rule ∈ rules, rule.Tame)
  | loadRules (disk : Disk) (directory : String)
  | start (id : Option String)
  | newGame
  | advance
  | select (index : Nat)
  | submitInput (answer : String)
  | goto (target : String)
  | retry
  | tick (now : Instant)
  | acknowledgeEffect
  | moveTo (location : Option Value)
  | save (slot : Nat) (name : Option String)
  | load (slot : Nat)
  | deleteSave (slot : Nat)
  | drainNotifications
  | interpreter (operation : Operation)

namespace SessionOperation

/-- The session behind an operation, also when it fails. -/
def perform (session : Session) : SessionOperation → Session
  | registerRules rules _ => (session.registerRules rules).2
  | loadRules disk directory => (session.loadRules disk directory).2
  | start id => (session.start id).after
  | newGame => session.newGame.after
  | advance => session.advance.after
  | select index => (session.select index).after
  | submitInput answer => (session.submitInput answer).after
  | goto target => (session.goto target).after
  | retry => session.retry.after
  | tick now => (session.tick now).after
  | acknowledgeEffect => session.acknowledgeEffect.after
  | moveTo location => session.moveTo location
  | save slot name => (session.save slot name).2
  | load slot => (session.load slot).after
  | deleteSave slot => (session.deleteSave slot).toOption.getD session
  | drainNotifications => session.withoutNotifications
  | interpreter operation => session.withInterpreter (operation.perform session.interpreter)

/-- The session behind operations that are performed one after another. -/
def performAll (session : Session) (operations : List SessionOperation) : Session :=
  operations.foldl perform session

end SessionOperation

/-- The interpreter belongs to a content and keeps its limits, and no rule reaches past the host. -/
structure Session.Sound (content : Content) (settings : StorySettings) (session : Session) :
    Prop where
  interpreter : session.interpreter.Sound content settings
  rules : ∀ rule ∈ session.rules.rules, rule.Tame

variable {content : Content} {settings : StorySettings}

/-! ## What rules keep -/

theorem Stage.Driven.sound {stage after : Stage} (driven : stage.Driven after)
    (sound : stage.interpreter.Sound content settings) :
    after.interpreter.Sound content settings := by
  induction driven with
  | same => exact sound
  | @write between path value _ ih =>
      have edited : ((Operation.edit fun state => (state.write path value).1).perform
          between.interpreter).Sound content settings := ih.perform _
      exact edited
  | goto target _ ih => exact ih.perform (.goto target)
  | endStory _ ih => exact ih.perform .endStory
  | restart unitId _ ih => exact ih.perform (.restart unitId)
  | showLine character text _ ih => exact ih.perform (.inject character text)
  | notify notification _ ih => exact ih

namespace RuleEngine

variable {engine : RuleEngine Stage}

/-- A pass of tame rules keeps the interpreter sound. -/
theorem evaluateAt_sound {stage : Stage} (tame : ∀ rule ∈ engine.rules, rule.Tame)
    (sound : stage.interpreter.Sound content settings) (now : Int) :
    (engine.evaluateAt stage now).2.1.interpreter.Sound content settings := by
  let kept (stage : Stage) : Prop := stage.interpreter.Sound content settings
  have drives : ∀ rule ∈ engine.rules, ∀ stage, kept stage → kept (rule.perform stage) :=
    fun rule known stage sound => ((tame rule known).perform stage).sound sound
  exact evaluateAt_host drives sound now

end RuleEngine

/-! ## What operations keep -/

namespace Session

variable {session : Session}

theorem new_sound (content : Content) (slots : SlotStore) (configuration : Configuration) :
    (Session.new content slots configuration).Sound content configuration.storySettings where
  interpreter := Interpreter.new_sound content configuration.storySettings
  rules := fun _ member => by cases member

theorem Sound.withInterpreter {interpreter : Interpreter} (sound : session.Sound content settings)
    (kept : interpreter.Sound content settings) :
    (session.withInterpreter interpreter).Sound content settings :=
  ⟨kept, sound.rules⟩

theorem Sound.evaluateRules (sound : session.Sound content settings) :
    session.evaluateRules.Sound content settings := by
  simp only [Session.evaluateRules]
  split
  · exact ⟨RuleEngine.evaluateAt_sound sound.rules sound.interpreter _,
      RuleEngine.evaluateAt_keeps Rule.tame_timeless sound.rules _ _⟩
  · exact sound

theorem Sound.conclude (sound : session.Sound content settings) :
    session.conclude.after.Sound content settings :=
  sound.evaluateRules

theorem Sound.perform {operation : Interpreter → Outcome} (sound : session.Sound content settings)
    (kept : (operation session.interpreter).after.Sound content settings) :
    (session.perform operation).after.Sound content settings := by
  simp only [Session.perform]
  split
  · exact sound.withInterpreter kept
  · exact (sound.withInterpreter kept).conclude

theorem Sound.captured (sound : session.Sound content settings) :
    session.captured.Sound content settings := by
  constructor
  · exact sound.interpreter
  · simp only [Session.captured]
    split <;> exact sound.rules

theorem Sound.prepare (sound : session.Sound content settings) :
    session.prepare.2.Sound content settings := by
  simp only [Session.prepare]
  split
  · exact sound.captured
  · have loaded := sound.interpreter.loadCharacters session.missingCharacters
    split
    · rename_i cause after failed
      rw [failed] at loaded
      exact sound.withInterpreter loaded
    · rename_i ids after succeeded
      rw [succeeded] at loaded
      exact (sound.withInterpreter loaded).captured

theorem Sound.start (sound : session.Sound content settings) (id : Option String) :
    (session.start id).after.Sound content settings := by
  simp only [Session.start]
  have prepared := sound.prepare
  split
  · rename_i error after failed
    rw [failed] at prepared
    exact prepared
  · rename_i ready after succeeded
    rw [succeeded] at prepared
    exact prepared.perform (prepared.interpreter.perform (.start _))

theorem Sound.cleared (sound : session.Sound content settings) :
    session.cleared.Sound content settings where
  interpreter := by
    have reset := sound.interpreter.perform .reset
    exact reset.perform (.edit StateTree.clear)
  rules := RuleEngine.reset_keeps Rule.tame_timeless sound.rules

theorem Sound.restore (sound : session.Sound content settings) (game : SaveRecord) :
    (session.restore game).after.Sound content settings := by
  have restored := SaveCodec.restore_sound sound.interpreter session.codec game
  have rules := RuleEngine.reset_keeps Rule.tame_timeless sound.rules
  simp only [Session.restore]
  split
  · exact ⟨restored, rules⟩
  · apply Sound.conclude
    exact ⟨restored, rules⟩

/-- Reading rules from a directory keeps them tame. -/
theorem Sound.loadRules (sound : session.Sound content settings) (disk : Disk)
    (directory : String) : (session.loadRules disk directory).2.Sound content settings := by
  simp only [Session.loadRules]
  split
  · exact sound
  · exact sound
  · split
    · exact sound
    · rename_i rules parsed
      exact ⟨sound.interpreter,
        RuleEngine.registerAll_keeps Rule.tame_timeless
          (fun _ member => Rule.parseAll_tame parsed member) sound.rules⟩

/-- Saving changes the slots only. -/
theorem save_eq (session : Session) (slot : Nat) (name : Option String) :
    ∃ slots, (session.save slot name).2 = { session with slots } := by
  unfold Session.save
  split
  · exact ⟨session.slots, rfl⟩
  · dsimp only
    split
    · exact ⟨session.slots, rfl⟩
    · rename_i slots _
      exact ⟨slots, rfl⟩

theorem Sound.load (sound : session.Sound content settings) (slot : Nat) :
    (session.load slot).after.Sound content settings := by
  simp only [Session.load]
  split
  · exact sound
  · have prepared := sound.prepare
    split
    · rename_i error after failed
      rw [failed] at prepared
      exact prepared
    · rename_i ready after succeeded
      rw [succeeded] at prepared
      exact prepared.restore _

/-- Every operation keeps a session sound. -/
theorem Sound.operation (sound : session.Sound content settings) (operation : SessionOperation) :
    (operation.perform session).Sound content settings := by
  cases operation with
  | registerRules rules tame =>
      exact ⟨sound.interpreter, RuleEngine.registerAll_keeps Rule.tame_timeless tame sound.rules⟩
  | loadRules disk directory => exact sound.loadRules disk directory
  | start id => exact sound.start id
  | newGame => exact sound.cleared.start none
  | advance => exact sound.perform (sound.interpreter.perform .advance)
  | select index => exact sound.perform (sound.interpreter.perform (.select index))
  | submitInput answer => exact sound.perform (sound.interpreter.perform (.submitInput answer))
  | goto target => exact sound.perform (sound.interpreter.perform (.goto target))
  | retry => exact sound.perform (sound.interpreter.perform .retry)
  | tick now => exact sound.perform (sound.interpreter.perform (.tick now))
  | acknowledgeEffect => exact sound.perform (sound.interpreter.perform .acknowledgeEffect)
  | moveTo location =>
      have moved : Session.Sound content settings { session with
          stage := { session.stage with location }, evaluated := none } :=
        ⟨sound.interpreter, sound.rules⟩
      exact moved.evaluateRules
  | save slot name =>
      obtain ⟨slots, same⟩ := save_eq session slot name
      change (session.save slot name).2.Sound content settings
      rw [same]
      exact ⟨sound.interpreter, sound.rules⟩
  | load slot => exact sound.load slot
  | deleteSave slot =>
      change ((session.deleteSave slot).toOption.getD session).Sound content settings
      simp only [Session.deleteSave]
      split
      · exact sound
      · exact ⟨sound.interpreter, sound.rules⟩
  | drainNotifications => exact ⟨sound.interpreter, sound.rules⟩
  | interpreter operation =>
      exact sound.withInterpreter (sound.interpreter.perform operation)

theorem Sound.performAll (sound : session.Sound content settings)
    (operations : List SessionOperation) :
    (SessionOperation.performAll session operations).Sound content settings := by
  induction operations generalizing session with
  | nil => exact sound
  | cons operation operations ih => exact ih (sound.operation operation)

end Session

end VisualNovel
