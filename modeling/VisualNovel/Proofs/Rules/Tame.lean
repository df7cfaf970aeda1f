import VisualNovel.Proofs.Lists
import VisualNovel.Proofs.Rules.Firing
import VisualNovel.Rules.Document
import VisualNovel.Session.Stage

/-!
# Rules that change the stage through its host

A callback of a rule gets the stage as a host, so it can do no more than a host offers, as often and
in whatever order it likes. Rules that are read from a document have no callbacks.
-/

namespace VisualNovel

/-- The stages that the operations of the host lead to. -/
inductive Stage.Driven (stage : Stage) : Stage → Prop where
  | same : Driven stage stage
  | write {between : Stage} (path : String) (value : Value) :
      Driven stage between → Driven stage (RuleHost.write between path value)
  | goto {between : Stage} (target : String) :
      Driven stage between → Driven stage (RuleHost.goto between target)
  | endStory {between : Stage} :
      Driven stage between → Driven stage (RuleHost.endStory between)
  | restart {between : Stage} (unitId : Option String) :
      Driven stage between → Driven stage (RuleHost.restart between unitId)
  | showLine {between : Stage} (character : Option String) (text : String) :
      Driven stage between → Driven stage (RuleHost.showLine between character text)
  | notify {between : Stage} (notification : Notification) :
      Driven stage between → Driven stage (RuleHost.notify between notification)

theorem Stage.Driven.trans {stage between after : Stage} (first : Driven stage between)
    (second : Driven between after) : Driven stage after := by
  induction second with
  | same => exact first
  | write path value _ ih => exact ih.write path value
  | goto target _ ih => exact ih.goto target
  | endStory _ ih => exact ih.endStory
  | restart unitId _ ih => exact ih.restart unitId
  | showLine character text _ ih => exact ih.showLine character text
  | notify notification _ ih => exact ih.notify notification

/-- An action that drives the stage. -/
def RuleAction.Tame (action : RuleAction Stage) : Prop :=
  ∀ stage, Stage.Driven stage (action.perform stage)

/-- Actions without a callback are tame. -/
theorem RuleAction.tame_of_plain {action : RuleAction Stage}
    (plain : ∀ run, action ≠ .callback run) : action.Tame := by
  intro stage
  cases action with
  | goto target => exact .goto target .same
  | setVariable path value => exact .write path value .same
  | notification notification => exact .notify notification .same
  | dialogue character text => exact .showLine character text .same
  | endStory => exact .endStory .same
  | restartStory unitId => exact .restart unitId .same
  | log message => exact .same
  | callback run => exact absurd rfl (plain run)

namespace Rule

/-- A rule whose callbacks drive the stage. -/
structure Tame (rule : Rule Stage) : Prop where
  actions : ∀ action ∈ rule.actions, action.Tame
  after : ∀ run ∈ rule.onTriggered, ∀ stage, Stage.Driven stage (run stage)

theorem tame_timeless : Timeless Tame where
  forgotten := fun tame => ⟨tame.actions, tame.after⟩
  triggered := fun _ tame => ⟨tame.actions, tame.after⟩

/-- A tame rule drives the stage when it fires. -/
theorem Tame.perform {rule : Rule Stage} (tame : rule.Tame) (stage : Stage) :
    Stage.Driven stage (rule.perform stage) := by
  obtain ⟨actions, after⟩ := tame
  simp only [Rule.perform]
  generalize rule.actions = remaining at actions
  have acted : Stage.Driven stage (remaining.foldl RuleAction.perform stage) := by
    induction remaining generalizing stage with
    | nil => exact .same
    | cons action remaining ih =>
        have first := actions action (List.mem_cons_self ..)
        have rest := fun other member => actions other (List.mem_cons_of_mem action member)
        exact (first stage).trans (ih (action.perform stage) rest)
  cases callback : rule.onTriggered with
  | none => exact acted
  | some run => exact acted.trans (after run callback _)

/-- A rule that only notifies is tame. -/
theorem tame_of_notification {rule : Rule Stage} {notification : Notification}
    (acts : rule.actions = [.notification notification]) (silent : rule.onTriggered = none) :
    ∀ other ∈ [rule], other.Tame := by
  intro other member
  rw [List.mem_singleton.1 member]
  constructor
  · intro action listed
    rw [acts] at listed
    rw [List.mem_singleton.1 listed]
    exact RuleAction.tame_of_plain fun run absent => by cases absent
  · intro run present
    rw [silent] at present
    cases present

/-! ## Rules from documents -/

/-- No document is read as a callback. -/
theorem ofJson?_plain {document : Json} {action : RuleAction Stage}
    (read : RuleAction.ofJson? document = some action) (run : Stage → Stage) :
    action ≠ .callback run := by
  rintro rfl
  simp only [RuleAction.ofJson?, Option.bind_eq_bind, Option.bind_eq_some_iff] at read
  obtain ⟨⟨kind, rest⟩, -, read⟩ := read
  simp only [RuleAction.ofKind?] at read
  split at read <;>
    simp [Option.bind_eq_bind, Option.bind_eq_some_iff, Option.map_eq_some_iff] at read

theorem mem_of_orDefault {α : Type} {fields : Json.Fields} {key : String}
    {decode : Json → Option α} {values : List α}
    (found : fields.orDefault? key [] (Json.listOf? decode) = some values) {value : α}
    (member : value ∈ values) : ∃ item, decode item = some value := by
  simp only [Json.Fields.orDefault?] at found
  split at found
  · cases found
    cases member
  · simp only [Json.listOf?] at found
    split at found
    · exact (mem_of_mapM found member).imp fun _ => And.right
    · cases found

/-- A rule that is read from a document has no callback, and its conditions and actions are read from
documents. -/
theorem ofJson?_parts {document : Json} {rule : Rule Stage}
    (read : ofJson? document = some rule) :
    rule.onTriggered = none ∧
      (∀ condition ∈ rule.conditions, ∃ item, Condition.ofJson? item = some condition) ∧
      ∀ action ∈ rule.actions, ∃ item, RuleAction.ofJson? item = some action := by
  simp only [ofJson?, Option.bind_eq_bind, Option.bind_eq_some_iff] at read
  obtain ⟨fields, -, id, -, name, -, description, -, enabled, -, mode, -, debounceMs, -, once, -,
    conditions, judged, actions, found, same⟩ := read
  cases same
  exact ⟨rfl, fun _ => mem_of_orDefault judged, fun _ => mem_of_orDefault found⟩

/-- A rule that is read from a document is tame. -/
theorem ofJson?_tame {document : Json} {rule : Rule Stage}
    (read : ofJson? document = some rule) : rule.Tame := by
  obtain ⟨silent, -, actions⟩ := ofJson?_parts read
  constructor
  · intro action member
    obtain ⟨item, decoded⟩ := actions action member
    exact RuleAction.tame_of_plain (ofJson?_plain decoded)
  · intro run present
    rw [silent] at present
    cases present

/-- Each rule that is read from a text is read from a document in it. -/
theorem mem_parseAll {text : String} {rules : List (Rule Stage)}
    (read : parseAll text = .ok rules) {rule : Rule Stage} (member : rule ∈ rules) :
    ∃ document, ofJson? document = some rule := by
  simp only [parseAll] at read
  split at read
  · rename_i parsed found
    cases read
    obtain ⟨document, -, listed⟩ := Option.bind_eq_some_iff.1 found
    simp only [listOfJson?, Json.listOf?] at listed
    split at listed
    · exact (mem_of_mapM listed member).imp fun _ => And.right
    · cases listed
  · cases read

/-- Rules that are read from a text are tame. -/
theorem parseAll_tame {text : String} {rules : List (Rule Stage)}
    (read : parseAll text = .ok rules) {rule : Rule Stage} (member : rule ∈ rules) :
    rule.Tame := by
  obtain ⟨document, decoded⟩ := mem_parseAll read member
  exact ofJson?_tame decoded

end Rule

end VisualNovel
