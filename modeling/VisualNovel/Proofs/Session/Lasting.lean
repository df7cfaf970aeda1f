import VisualNovel.Proofs.Rules.Registering
import VisualNovel.Proofs.Session.Operation

/-!
# What lasts in a session

No operation changes the configuration of a session or the identifiers of its rules, and the engine
runs only where the configuration has the rules evaluated.
-/

namespace VisualNovel

namespace Session

variable {configuration : Configuration} {session after : Session}

/-- The session has its configuration, its engine rests where rules are switched off, and its rules
are well named. -/
structure Lasting (configuration : Configuration) (session : Session) : Prop where
  configured : session.configuration = configuration
  enabled : session.rules.running = true → configuration.rulesEnabled = true
  named : RuleEngine.WellNamed session.rules.rules

namespace Lasting

theorem new (content : Content) (slots : SlotStore) (configuration : Configuration) :
    Lasting configuration (.new content slots configuration) where
  configured := rfl
  enabled := fun running => by cases running
  named := ⟨List.nodup_nil, fun _ member => by cases member⟩

/-- What lasts depends on the configuration, on whether the engine runs, and on the identifiers. -/
theorem of_eq (lasting : session.Lasting configuration)
    (kept : after.configuration = session.configuration)
    (running : after.rules.running = session.rules.running)
    (ids : after.rules.rules.map Rule.id = session.rules.rules.map Rule.id) :
    after.Lasting configuration where
  configured := kept.trans lasting.configured
  enabled := running ▸ lasting.enabled
  named := lasting.named.ids ids

theorem evaluateRules (lasting : session.Lasting configuration) :
    session.evaluateRules.Lasting configuration := by
  simp only [Session.evaluateRules]
  split
  · exact lasting.of_eq rfl (RuleEngine.evaluateAt_runs ..) (RuleEngine.evaluateAt_ids ..)
  · exact lasting

theorem perform (lasting : session.Lasting configuration) (operation : Interpreter → Outcome) :
    (session.perform operation).after.Lasting configuration := by
  have moved : (session.withInterpreter (operation session.interpreter).after).Lasting
      configuration := lasting.of_eq rfl rfl rfl
  simp only [Session.perform]
  split
  · exact moved
  · exact moved.evaluateRules

/-- The engine is started only where rules are evaluated. -/
theorem captured (lasting : session.Lasting configuration) :
    session.captured.Lasting configuration := by
  refine ⟨lasting.configured, ?_, ?_⟩
  · simp only [Session.captured]
    split
    · rename_i enabled
      exact fun _ => lasting.configured ▸ enabled
    · exact lasting.enabled
  · simp only [Session.captured]
    split <;> exact lasting.named

theorem prepare (lasting : session.Lasting configuration) :
    session.prepare.2.Lasting configuration := by
  simp only [Session.prepare]
  split
  · exact lasting.captured
  · split
    · exact lasting.of_eq rfl rfl rfl
    · rename_i ids loaded _
      have moved : (session.withInterpreter loaded).Lasting configuration :=
        lasting.of_eq rfl rfl rfl
      exact moved.captured

theorem start (lasting : session.Lasting configuration) (id : Option String) :
    (session.start id).after.Lasting configuration := by
  have prepared := lasting.prepare
  simp only [Session.start]
  split
  · rename_i error ready failed
    rw [failed] at prepared
    exact prepared
  · rename_i ready succeeded
    rw [succeeded] at prepared
    exact prepared.perform _

theorem cleared (lasting : session.Lasting configuration) :
    session.cleared.Lasting configuration :=
  lasting.of_eq rfl rfl session.rules.reset_ids

theorem restore (lasting : session.Lasting configuration) (game : SaveRecord) :
    (session.restore game).after.Lasting configuration := by
  simp only [Session.restore]
  split
  · exact lasting.of_eq rfl rfl session.rules.reset_ids
  · apply Lasting.evaluateRules
    exact lasting.of_eq rfl rfl session.rules.reset_ids

theorem load (lasting : session.Lasting configuration) (slot : Nat) :
    (session.load slot).after.Lasting configuration := by
  have prepared := lasting.prepare
  simp only [Session.load]
  split
  · exact lasting
  · split
    · rename_i error ready failed
      rw [failed] at prepared
      exact prepared
    · rename_i ready succeeded
      rw [succeeded] at prepared
      exact prepared.restore _

theorem registerRules (lasting : session.Lasting configuration) (rules : List (Rule Stage)) :
    (session.registerRules rules).2.Lasting configuration where
  configured := lasting.configured
  enabled := by
    change (RuleEngine.registerAll rules session.rules).1.running = true → _
    rw [RuleEngine.registerAll_runs]
    exact lasting.enabled
  named := lasting.named.registerAll rules

theorem loadRules (lasting : session.Lasting configuration) (disk : Disk) (directory : String) :
    (session.loadRules disk directory).2.Lasting configuration := by
  simp only [Session.loadRules]
  split
  · exact lasting
  · exact lasting
  · split
    · exact lasting
    · exact lasting.registerRules _

theorem operation (lasting : session.Lasting configuration) (operation : SessionOperation) :
    (operation.perform session).Lasting configuration := by
  cases operation with
  | registerRules rules tame => exact lasting.registerRules rules
  | loadRules disk directory => exact lasting.loadRules disk directory
  | start id => exact lasting.start id
  | newGame => exact lasting.cleared.start none
  | moveTo location =>
      have moved : Lasting configuration { session with
          stage := { session.stage with location }, evaluated := none } := lasting.of_eq rfl rfl rfl
      exact moved.evaluateRules
  | save slot name =>
      obtain ⟨slots, same⟩ := save_eq session slot name
      change (session.save slot name).2.Lasting configuration
      rw [same]
      exact lasting.of_eq rfl rfl rfl
  | load slot => exact lasting.load slot
  | deleteSave slot =>
      change ((session.deleteSave slot).toOption.getD session).Lasting configuration
      simp only [Session.deleteSave]
      split
      · exact lasting
      · exact lasting.of_eq rfl rfl rfl
  | drainNotifications | interpreter => exact lasting.of_eq rfl rfl rfl
  | advance | select | submitInput | goto | retry | tick | acknowledgeEffect =>
      exact lasting.perform _

/-- Every session that a host can reach keeps what lasts of a new one. -/
theorem performAll (lasting : session.Lasting configuration) (operations : List SessionOperation) :
    (SessionOperation.performAll session operations).Lasting configuration := by
  induction operations generalizing session with
  | nil => exact lasting
  | cons operation operations ih => exact ih (lasting.operation operation)

end Lasting

end Session

end VisualNovel
