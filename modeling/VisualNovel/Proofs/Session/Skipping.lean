import VisualNovel.Proofs.Rules.Conditions
import VisualNovel.Proofs.Rules.Order
import VisualNovel.Proofs.Session.Evaluating

/-!
# Passes that are skipped

No pass takes place on a revision that was seen. The revision stands for the contents of the state,
and whoever moves the player has the rules evaluated, so what conditions read of the state and of the
location is as it was behind the last pass. The story is no part of the state: whether it runs, and
in which unit, can change behind a revision that stays.
-/

namespace VisualNovel

/-! ## What operations do in front of the pass -/

namespace Session

variable {session between after : Session} {first second most : Nat}

/-- Whether all rules of a session keep maps in order. -/
def RulesKeepOrder (session : Session) : Prop :=
  ∀ rule ∈ session.rules.rules, rule.KeepsOrder

/-- What an operation makes of a session in front of the pass: it marks the state at most that often,
it forgets what was seen unless the player stays and the same revision was seen, and it brings in no
rules that put maps out of order. -/
structure Proceeds (most : Nat) (before after : Session) : Prop where
  spends : before.interpreter.Spends most after.interpreter
  memory : after.evaluated = none ∨
    after.evaluated = before.evaluated ∧ after.stage.location = before.stage.location
  rules : before.RulesKeepOrder → after.RulesKeepOrder

/-- The story and the player stay, and so do the rules and what they have seen. -/
theorem Proceeds.still (stage : after.stage = session.stage)
    (evaluated : after.evaluated = session.evaluated) (rules : after.rules = session.rules) :
    Proceeds most session after where
  spends := by
    have same : after.interpreter = session.interpreter := congrArg Stage.interpreter stage
    rw [same]
    exact .still rfl rfl rfl
  memory := .inr ⟨evaluated, congrArg Stage.location stage⟩
  rules := by
    simp only [RulesKeepOrder]
    rw [rules]
    exact id

theorem Proceeds.mono (proceeds : Proceeds first session after) (fewer : first ≤ most) :
    Proceeds most session after :=
  ⟨proceeds.spends.mono fewer, proceeds.memory, proceeds.rules⟩

theorem Proceeds.trans (start : Proceeds first session between)
    (rest : Proceeds second between after) : Proceeds (first + second) session after where
  spends := start.spends.trans rest.spends
  memory := by
    rcases rest.memory with forgot | ⟨evaluated, location⟩
    · exact .inl forgot
    · rw [evaluated, location]
      exact start.memory
  rules := rest.rules ∘ start.rules

/-- An operation of the interpreter leaves all but the story alone. -/
theorem withInterpreter_proceeds {interpreter : Interpreter}
    (spends : session.interpreter.Spends most interpreter) :
    Proceeds most session (session.withInterpreter interpreter) :=
  ⟨spends, .inr ⟨rfl, rfl⟩, id⟩

theorem captured_proceeds (session : Session) : Proceeds 0 session session.captured where
  spends := .still rfl rfl rfl
  memory := .inr ⟨rfl, rfl⟩
  rules := by
    intro keeps
    simp only [RulesKeepOrder, captured]
    split <;> exact keeps

theorem prepare_proceeds (inOrder : session.interpreter.content.InOrder) :
    Proceeds session.missingCharacters.length session session.prepare.2 := by
  simp only [Session.prepare]
  split
  · exact (captured_proceeds session).mono (Nat.zero_le _)
  · have loaded := withInterpreter_proceeds
      (Interpreter.loadCharacters_spends inOrder session.missingCharacters)
    generalize session.interpreter.loadCharacters session.missingCharacters = outcome at loaded ⊢
    obtain ⟨result, ready⟩ := outcome
    cases result with
    | error cause => exact loaded
    | ok ids => exact loaded.trans (captured_proceeds _)

/-- How often a start marks the state at most. -/
def startMarks (session : Session) : Nat :=
  session.missingCharacters.length + session.interpreter.settings.maxAutoSteps

theorem attemptedStart_proceeds (inOrder : session.interpreter.content.InOrder)
    (id : Option String) :
    Proceeds session.startMarks session (session.attemptedStart id).reached := by
  have prepared := prepare_proceeds inOrder
  simp only [attemptedStart, startMarks]
  generalize session.prepare = ready at prepared ⊢
  obtain ⟨result, ready⟩ := ready
  cases result with
  | error cause => exact prepared.mono (Nat.le_add_right _ _)
  | ok =>
      have settings : ready.interpreter.settings = session.interpreter.settings :=
        prepared.spends.settings
      rw [← settings]
      exact prepared.trans (withInterpreter_proceeds (Interpreter.restart_spends _ _))

/-- Clearing marks the state twice, and forgets what was seen. -/
theorem cleared_proceeds (session : Session) : Proceeds 2 session session.cleared where
  spends := ⟨rfl, rfl, (StateTree.setGlobal_marks _ Value.emptyMap_ordered).trans
    (StateTree.clear_marks _)⟩
  memory := .inl rfl
  rules := RuleEngine.reset_keeps Rule.keepsOrder_timeless

theorem attemptedRestore_proceeds (inOrder : session.interpreter.content.InOrder)
    {game : SaveRecord} (ordered : game.InOrder) :
    Proceeds (session.codec.restoreMarks game session.interpreter) session
      (session.attemptedRestore game).reached := by
  have spends := SaveCodec.restore_spends inOrder session.codec ordered
  have rules : session.RulesKeepOrder → ∀ rule ∈ session.rules.reset.rules, rule.KeepsOrder :=
    RuleEngine.reset_keeps Rule.keepsOrder_timeless
  simp only [attemptedRestore]
  generalize restores : SaveCodec.restore _ game _ = restored
  have same : session.codec.restore game session.interpreter = restored := restores
  rw [same] at spends
  cases restored.result with
  | error cause => exact ⟨spends, .inr ⟨rfl, rfl⟩, rules⟩
  | ok status => exact ⟨spends, .inl rfl, rules⟩

/-- How often a load of a record marks the state at most. -/
def loadMarks (session : Session) (game : SaveRecord) : Nat :=
  session.missingCharacters.length +
    session.prepare.2.codec.restoreMarks game session.prepare.2.interpreter

theorem attemptedLoad_proceeds (inOrder : session.interpreter.content.InOrder) {slot : Nat}
    {file : SaveFile} (found : session.slots.read slot = .ok file) (ordered : file.game.InOrder) :
    Proceeds (session.loadMarks file.game) session (session.attemptedLoad slot).reached := by
  have prepared := prepare_proceeds inOrder
  simp only [attemptedLoad, loadMarks]
  rw [found]
  dsimp only
  generalize session.prepare = ready at prepared ⊢
  obtain ⟨result, ready⟩ := ready
  cases result with
  | error cause => exact prepared.mono (Nat.le_add_right _ _)
  | ok =>
      have source : ready.interpreter.content.InOrder := by
        rw [prepared.spends.content]
        exact inOrder
      exact prepared.trans (attemptedRestore_proceeds source ordered)

/-- Rules that are read from a directory keep maps in order. -/
theorem loadRules_proceeds (session : Session) (disk : Disk) (directory : String) :
    Proceeds 0 session (session.loadRules disk directory).2 := by
  have unchanged : Proceeds 0 session session := .still rfl rfl rfl
  simp only [Session.loadRules]
  split
  · exact unchanged
  · exact unchanged
  · split
    · exact unchanged
    · rename_i rules parsed
      refine ⟨.still rfl rfl rfl, .inr ⟨rfl, rfl⟩, ?_⟩
      exact RuleEngine.registerAll_keeps Rule.keepsOrder_timeless
        fun rule member => Rule.parseAll_keepsOrder parsed member

end Session

namespace SessionOperation

/-- How often an operation marks the state in front of the pass at most. -/
def marks (session : Session) : SessionOperation → Nat
  | start _ => session.startMarks
  | newGame => 2 + session.cleared.startMarks
  | load slot => (session.slots.read slot).toOption.elim 0 fun file => session.loadMarks file.game
  | interpreter operation => operation.marks session.interpreter
  | registerRules .. | loadRules .. | moveTo _ | save .. | deleteSave _ | drainNotifications => 0
  | _ => session.interpreter.settings.maxAutoSteps + 1

/-- Whether an operation brings in nothing that is out of order: rules that set variables to such
values, a game with such maps, or an edit of the state without a mark. -/
def Orderly (session : Session) : SessionOperation → Prop
  | registerRules rules _ => ∀ rule ∈ rules, rule.KeepsOrder
  | interpreter operation => operation.IsMarked
  | load slot => ∀ file, session.slots.read slot = .ok file → file.game.InOrder
  | _ => True

variable {session : Session} {operation : SessionOperation}

theorem attempt_proceeds (inOrder : session.interpreter.content.InOrder)
    (orderly : operation.Orderly session) :
    session.Proceeds (operation.marks session) (operation.attempt session).reached := by
  have performs (operation : Operation) (marked : operation.IsMarked) :=
    Session.withInterpreter_proceeds (Operation.perform_spends inOrder operation marked)
  cases operation with
  | registerRules rules tame =>
      refine ⟨.still rfl rfl rfl, .inr ⟨rfl, rfl⟩, ?_⟩
      exact RuleEngine.registerAll_keeps Rule.keepsOrder_timeless orderly
  | loadRules disk directory => exact Session.loadRules_proceeds session disk directory
  | start id => exact Session.attemptedStart_proceeds inOrder id
  | newGame =>
      have source : session.cleared.interpreter.content.InOrder := inOrder
      exact (Session.cleared_proceeds session).trans (Session.attemptedStart_proceeds source none)
  | load slot =>
      simp only [marks, attempt]
      cases found : session.slots.read slot with
      | error cause =>
          simp only [Session.attemptedLoad]
          rw [found]
          exact .still rfl rfl rfl
      | ok file => exact Session.attemptedLoad_proceeds inOrder found (orderly file found)
  | interpreter inner => exact performs inner orderly
  | advance => exact performs .advance trivial
  | select index => exact performs (.select index) trivial
  | submitInput answer => exact performs (.submitInput answer) trivial
  | goto target => exact performs (.goto target) trivial
  | retry => exact performs .retry trivial
  | tick now => exact performs (.tick now) trivial
  | acknowledgeEffect => exact performs .acknowledgeEffect trivial
  | moveTo location => exact ⟨.still rfl rfl rfl, .inl rfl, id⟩
  | save slot name =>
      obtain ⟨slots, same⟩ := Session.save_eq session slot name
      change session.Proceeds 0 (session.save slot name).2
      rw [same]
      exact .still rfl rfl rfl
  | deleteSave slot =>
      change session.Proceeds 0 ((session.deleteSave slot).toOption.getD session)
      simp only [Session.deleteSave]
      split <;> exact .still rfl rfl rfl
  | drainNotifications => exact ⟨.still rfl rfl rfl, .inr ⟨rfl, rfl⟩, id⟩

end SessionOperation

/-! ## Watching a session -/

/-- A session under watch. -/
structure Watch where
  /-- The session. -/
  session : Session
  /-- The stage behind the last pass, if there was one. -/
  last : Option Stage
  /-- How often the state was marked since then at most. -/
  marks : Nat

namespace Watch

/-- A session before any story under watch. -/
def new (content : Content) (slots : SlotStore) (configuration : Configuration) : Watch :=
  ⟨.new content slots configuration, none, 0⟩

/-- The watch behind an operation. -/
def perform (watch : Watch) (operation : SessionOperation) : Watch :=
  let attempt := operation.attempt watch.session
  if attempt.evaluates && attempt.reached.isPassDue then
    ⟨attempt.reached.passed, some attempt.reached.passed.stage, 0⟩
  else ⟨attempt.reached, watch.last, watch.marks + operation.marks watch.session⟩

/-- The watch only looks at the session. -/
theorem perform_session (watch : Watch) (operation : SessionOperation) :
    (watch.perform operation).session = operation.perform watch.session := by
  rw [Session.perform_attempt]
  simp only [perform, Attempt.settled]
  rw [Session.evaluateRules_eq]
  cases (operation.attempt watch.session).evaluates with
  | false => rfl
  | true =>
      cases (operation.attempt watch.session).reached.isPassDue <;> rfl

/-- What was seen is forgotten, or it is the revision of a stage whose maps are in order. Since then
the player has not moved, and the state was marked no more often than the watch says. -/
def Recalls (watch : Watch) : Prop :=
  watch.session.evaluated = none ∨ ∃ stage, watch.last = some stage ∧
    stage.interpreter.state.InOrder ∧
    watch.session.evaluated = some stage.interpreter.state.revision ∧
    watch.session.stage.location = stage.location ∧
    stage.interpreter.state.Marks watch.marks watch.session.interpreter.state

end Watch

/-- The sessions under watch that a host can reach. -/
inductive Watched (content : Content) (slots : SlotStore) (configuration : Configuration) :
    Watch → Prop where
  | new : Watched content slots configuration (.new content slots configuration)
  | perform {watch : Watch} (operation : SessionOperation) :
      Watched content slots configuration watch → operation.Orderly watch.session →
      Watched content slots configuration (watch.perform operation)

namespace Watched

variable {content : Content} {slots : SlotStore} {configuration : Configuration} {watch : Watch}

/-- The session under watch is one that operations lead to. -/
theorem performAll (watched : Watched content slots configuration watch) :
    ∃ operations, watch.session =
      SessionOperation.performAll (.new content slots configuration) operations := by
  induction watched with
  | new => exact ⟨[], rfl⟩
  | perform operation watched orderly ih =>
      obtain ⟨operations, same⟩ := ih
      refine ⟨operations ++ [operation], ?_⟩
      rw [Watch.perform_session, same]
      simp only [SessionOperation.performAll, List.foldl_append, List.foldl_cons, List.foldl_nil]

theorem content_eq (watched : Watched content slots configuration watch) :
    watch.session.interpreter.content = content := by
  obtain ⟨operations, same⟩ := watched.performAll
  rw [same]
  exact ((Session.new_sound content slots configuration).performAll operations).interpreter.source

/-- An orderly host keeps the maps of the state in order, and the watch knows what was seen. -/
theorem recalls (inOrder : content.InOrder) (watched : Watched content slots configuration watch) :
    watch.session.interpreter.state.InOrder ∧ watch.session.RulesKeepOrder ∧ watch.Recalls := by
  induction watched with
  | new =>
      refine ⟨⟨List.Pairwise.nil, ?_, Value.emptyMap_ordered⟩, ?_, .inl rfl⟩
      · intro id character absent
        cases absent
      · intro rule absent
        cases absent
  | @perform watch operation watched orderly ih =>
      obtain ⟨state, rules, recalls⟩ := ih
      have source : watch.session.interpreter.content.InOrder := by
        rw [watched.content_eq]
        exact inOrder
      have proceeds := SessionOperation.attempt_proceeds source orderly
      have reached := (proceeds.spends.state state).1
      have keeps := proceeds.rules rules
      simp only [Watch.perform]
      split
      · let kept (stage : Stage) : Prop := stage.interpreter.state.InOrder
        have passed : kept _ := RuleEngine.evaluateAt_host keeps reached
          (operation.attempt watch.session).reached.interpreter.clock
        refine ⟨passed, ?_, .inr ⟨_, rfl, passed, rfl, rfl, .refl _⟩⟩
        exact RuleEngine.evaluateAt_keeps Rule.keepsOrder_timeless keeps _ _
      · refine ⟨reached, keeps, ?_⟩
        rcases proceeds.memory with forgot | ⟨kept, stays⟩
        · exact .inl forgot
        · rcases recalls with forgot | ⟨stage, last, ordered, seen, place, marks⟩
          · exact .inl (kept.trans forgot)
          · exact .inr ⟨stage, last, ordered, kept.trans seen, stays.trans place,
              marks.trans proceeds.spends.state⟩

/-- When the revision in front of the pass was seen, no pass takes place, and what conditions read of
the state and of the location is as it was behind the last pass. So every condition that asks no
predicate evaluates as it did there exactly when the story is in the same unit and plays as it did.
Between the two stages the state must not be marked as often as there are revisions. -/
theorem skipped (inOrder : content.InOrder) (watched : Watched content slots configuration watch)
    (operation : SessionOperation) (orderly : operation.Orderly watch.session)
    (few : watch.marks + operation.marks watch.session < UInt64.size)
    (known : (operation.attempt watch.session).reached.HasSeen) :
    let reached := (operation.attempt watch.session).reached
    operation.perform watch.session = reached ∧ ∃ stage, watch.last = some stage ∧
      (∀ condition : Condition Stage, condition.check.isCustom = false →
        condition.check.isStory = false →
        condition.evaluate reached.stage = condition.evaluate stage) ∧
      ((∀ condition : Condition Stage, condition.check.isCustom = false →
          condition.evaluate reached.stage = condition.evaluate stage) ↔
        reached.interpreter.unitId? = stage.interpreter.unitId? ∧
          reached.stage.isPlaying = stage.isPlaying) := by
  intro reached
  have rests : reached.isPassDue = false := by
    rw [Session.isPassDue, Bool.and_eq_false_iff]
    exact .inr (decide_eq_false fun unseen => unseen known)
  have skips : watch.perform operation =
      ⟨reached, watch.last, watch.marks + operation.marks watch.session⟩ := by
    simp only [Watch.perform]
    rw [rests, Bool.and_false]
    rfl
  have later := Watched.perform operation watched orderly
  have after := (later.recalls inOrder).2.2
  rw [skips] at after
  rcases after with forgot | ⟨stage, last, ordered, seen, place, marks⟩
  · have none : reached.evaluated = none := forgot
    rw [Session.HasSeen, none] at known
    cases known
  · have same : reached.interpreter.state.revision = stage.interpreter.state.revision :=
      Option.some.inj (known.symm.trans seen)
    have contents := marks.contents ordered few same
    have read : RuleHost.read reached.stage = RuleHost.read stage := by
      funext path
      change reached.interpreter.state.read? path = stage.interpreter.state.read? path
      rw [contents.eq, StateTree.read?_revision]
    have alike : ∀ condition : Condition Stage, condition.check.isCustom = false →
        condition.check.isStory = false →
        condition.evaluate reached.stage = condition.evaluate stage := by
      intro condition plain other
      exact Condition.evaluate_congr (Check.evaluate_congr plain other read place)
    refine ⟨?_, stage, last, alike, Condition.story_of_agree, ?_⟩
    · rw [← Watch.perform_session, skips]
    · rintro ⟨unit, playing⟩ condition plain
      cases story : condition.check.isStory with
      | false => exact alike condition plain story
      | true => exact Condition.evaluate_congr (Check.evaluate_story story unit playing)

/-- A rule that thanks the player when the story is over. -/
def endRule : Rule Stage :=
  { Rule.new "over" with
    mode := .onChange
    conditions := [⟨.story .isPlaying none (.bool false), false⟩]
    actions := [.notification ⟨"Thank you for playing.", .info, none⟩] }

/-- A story of one line. -/
def endContent : Content :=
  (Library.empty.addUnit ⟨"start", [⟨none, .dialogue ⟨none, "The end is near.", none, []⟩⟩]⟩).toContent

/-- The watch in front of the end. -/
def endWatch : Watch :=
  ((Watch.new endContent (.memory .empty) { Configuration.standard with roster := [] }).perform
    (.registerRules [endRule] (Rule.tame_of_notification rfl rfl))).perform (.start none)

/-- The advance ends the story. The rule would fire, but no pass takes place: the state has not
changed. -/
theorem skipped_end :
    let reached := (SessionOperation.advance.attempt endWatch.session).reached
    endWatch.session.advance.after = reached ∧ reached.HasSeen ∧
      endRule.conditionsHold reached.stage = true ∧ ∃ stage, endWatch.last = some stage ∧
        endRule.conditionsHold stage = false ∧
        (∀ condition : Condition Stage, condition.check.isCustom = false →
          condition.check.isStory = false →
          condition.evaluate reached.stage = condition.evaluate stage) ∧
        ¬ ∀ condition : Condition Stage, condition.check.isCustom = false →
          condition.evaluate reached.stage = condition.evaluate stage := by
  intro reached
  have inOrder : endContent.InOrder := by
    intro id data delivered
    cases delivered
  have keeps : ∀ rule ∈ [endRule], rule.KeepsOrder := by
    intro rule member
    rw [List.mem_singleton.1 member]
    exact fun stage ordered => ordered
  have watched : Watched endContent (.memory .empty) { Configuration.standard with roster := [] }
      endWatch :=
    (Watched.new.perform (.registerRules [endRule] _) keeps).perform (.start none) trivial
  have seen : reached.HasSeen := by decide +kernel
  have ended : endRule.conditionsHold reached.stage = true := by decide +kernel
  have finished : reached.stage.isPlaying = false := by decide +kernel
  have waited : endWatch.last.map endRule.conditionsHold = some false := by decide +kernel
  have played : endWatch.last.map Stage.isPlaying = some true := by decide +kernel
  obtain ⟨skips, stage, last, alike, exactly⟩ :=
    skipped inOrder watched .advance trivial (by decide +kernel) seen
  rw [last] at waited played
  refine ⟨skips, seen, ended, stage, last, Option.some.inj waited, alike, ?_⟩
  intro agree
  have same := (exactly.1 agree).2
  rw [finished, Option.some.inj played] at same
  cases same

end Watched

end VisualNovel
