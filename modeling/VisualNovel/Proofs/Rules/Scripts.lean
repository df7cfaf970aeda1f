import VisualNovel.Proofs.Interpreter.Doubles
import VisualNovel.Proofs.Rules.Conditions
import VisualNovel.Proofs.Rules.Tame

/-!
# Rules that know the stage through its host

A predicate or a callback of a rule gets the stage as a host. It asks the host, gives a command, and
what it does next depends on what the host answers then. Stages with doubles of one story at one
location answer alike, so no rule tells them apart, and a pass of the rules is the same on both.
-/

namespace VisualNovel

/-- What a host answers. -/
structure HostView where
  /-- The values at the paths. -/
  read : String → Option Value
  /-- The location of the player. -/
  location : Option Value
  /-- The identifier of the unit that runs. -/
  activeStory : Option String
  /-- Whether a story runs. -/
  isPlaying : Bool
  /-- Whether a value can be written to a path. -/
  accepts : String → Value → Bool

/-- What a host is told to do. -/
inductive HostCommand where
  | write (path : String) (value : Value)
  | goto (target : String)
  | endStory
  | restart (unitId : Option String)
  | showLine (character : Option String) (text : String)
  | notify (notification : Notification)

/-- The commands of a callback. Behind each of them the host is asked how to go on. -/
inductive HostScript where
  | done
  | order (command : HostCommand) (next : HostView → HostScript)

namespace Stage

/-- What the stage answers as a host. -/
def view (stage : Stage) : HostView where
  read := RuleHost.read stage
  location := RuleHost.location stage
  activeStory := RuleHost.activeStory stage
  isPlaying := RuleHost.isPlaying stage
  accepts path value := (stage.interpreter.state.write path value).2

end Stage

/-- The stage behind a command. -/
def HostCommand.perform (stage : Stage) : HostCommand → Stage
  | .write path value => RuleHost.write stage path value
  | .goto target => RuleHost.goto stage target
  | .endStory => RuleHost.endStory stage
  | .restart unitId => RuleHost.restart stage unitId
  | .showLine character text => RuleHost.showLine stage character text
  | .notify notification => RuleHost.notify stage notification

/-- The stage behind all commands of a script. -/
def HostScript.run : HostScript → Stage → Stage
  | .done, stage => stage
  | .order command next, stage =>
      (next (command.perform stage).view).run (command.perform stage)

/-- A predicate that asks the host. -/
def Check.Scripted (check : Check Stage) : Prop :=
  ∀ holds, check = .custom holds →
    ∃ judge : HostView → Bool, ∀ stage, holds stage = judge stage.view

/-- A callback that asks the host and commands it. -/
def HostScript.Describes (run : Stage → Stage) : Prop :=
  ∃ script : HostView → HostScript, ∀ stage, run stage = (script stage.view).run stage

/-- An action that asks the host and commands it. -/
def RuleAction.Scripted (action : RuleAction Stage) : Prop :=
  ∀ run, action = .callback run → HostScript.Describes run

/-- A rule that knows the stage through its host. -/
structure Rule.Scripted (rule : Rule Stage) : Prop where
  conditions : ∀ condition ∈ rule.conditions, condition.check.Scripted
  actions : ∀ action ∈ rule.actions, action.Scripted
  after : ∀ run ∈ rule.onTriggered, HostScript.Describes run

theorem Rule.Scripted.withoutStatistics {rule : Rule Stage} (scripted : rule.Scripted) :
    rule.withoutStatistics.Scripted :=
  ⟨scripted.conditions, scripted.actions, scripted.after⟩

/-! ## Stages that are alike -/

variable {content : Content} {settings : StorySettings} {now : Instant}
variable {heard : AudioRegistry → AudioRegistry → Prop} {first second : Stage}

/-- Doubles of a story at one location, with the same notifications. -/
structure Stage.Alike (content : Content) (settings : StorySettings)
    (heard : AudioRegistry → AudioRegistry → Prop) (now : Instant) (first second : Stage) :
    Prop where
  story : Interpreter.Doubles content settings heard now first.interpreter second.interpreter
  location : second.location = first.location
  notifications : second.notifications = first.notifications

namespace Stage.Alike

/-- Alike stages answer alike. -/
theorem view (alike : Alike content settings heard now first second) :
    second.view = first.view := by
  have contents := alike.story.contents
  have read : second.interpreter.state.read? = first.interpreter.state.read? := by
    funext path
    rw [contents.eq, StateTree.read?_revision]
  have accepts : (fun path value => (second.interpreter.state.write path value).2) =
      fun path value => (first.interpreter.state.write path value).2 := by
    funext path value
    exact (StateTree.write_contents path value contents).2
  have unit : second.interpreter.unitId? = first.interpreter.unitId? :=
    alike.story.resembles.read Interpreter.unitId? fun _ => rfl
  have status : second.interpreter.status = first.interpreter.status :=
    alike.story.resembles.read Interpreter.status fun _ => rfl
  have playing : second.isPlaying = first.isPlaying := by
    simp only [Stage.isPlaying]
    rw [status]
  rw [Stage.view, Stage.view, HostView.mk.injEq]
  exact ⟨read, alike.location, unit, playing, accepts⟩

/-- A command keeps stages alike. -/
theorem perform (alike : Alike content settings heard now first second)
    (tunes : content.Tunes heard) (command : HostCommand) :
    Alike content settings heard now (command.perform first) (command.perform second) := by
  obtain ⟨story, location, notifications⟩ := alike
  cases command with
  | write path value => exact ⟨story.write path value, location, notifications⟩
  | goto target => exact ⟨story.goto tunes target, location, notifications⟩
  | endStory => exact ⟨story.endStory, location, notifications⟩
  | restart unitId => exact ⟨(story.restart tunes unitId).2, location, notifications⟩
  | showLine character text => exact ⟨story.inject character text, location, notifications⟩
  | notify notification =>
      exact ⟨story, location, congrArg (· ++ [notification]) notifications⟩

/-- A script keeps stages alike: it asks both for the same commands. -/
theorem run (alike : Alike content settings heard now first second)
    (tunes : content.Tunes heard) (script : HostScript) :
    Alike content settings heard now (script.run first) (script.run second) := by
  induction script generalizing first second with
  | done => exact alike
  | order command next ih =>
      have performed := alike.perform tunes command
      simp only [HostScript.run]
      rw [performed.view]
      exact ih _ performed

theorem describes (alike : Alike content settings heard now first second)
    (tunes : content.Tunes heard) {run : Stage → Stage} (described : HostScript.Describes run) :
    Alike content settings heard now (run first) (run second) := by
  obtain ⟨script, same⟩ := described
  rw [same, same, alike.view]
  exact alike.run tunes _

theorem evaluate (alike : Alike content settings heard now first second) {check : Check Stage}
    (scripted : check.Scripted) : check.evaluate second = check.evaluate first := by
  have views := alike.view
  have read : RuleHost.read second = RuleHost.read first := congrArg HostView.read views
  have location : RuleHost.location second = RuleHost.location first :=
    congrArg HostView.location views
  have unit : RuleHost.activeStory second = RuleHost.activeStory first :=
    congrArg HostView.activeStory views
  have playing : RuleHost.isPlaying second = RuleHost.isPlaying first :=
    congrArg HostView.isPlaying views
  cases check with
  | custom holds =>
      obtain ⟨judge, same⟩ := scripted holds rfl
      change holds second = holds first
      rw [same, same, views]
  | story field operator value => exact Check.evaluate_story rfl unit playing
  | _ => exact Check.evaluate_congr rfl rfl read location

/-- A scripted rule holds on both stages or on neither. -/
theorem conditionsHold (alike : Alike content settings heard now first second)
    {rule : Rule Stage} (scripted : rule.Scripted) :
    rule.conditionsHold second = rule.conditionsHold first := by
  simp only [Rule.conditionsHold]
  have known := scripted.conditions
  generalize rule.conditions = conditions at known
  induction conditions with
  | nil => rfl
  | cons condition conditions ih =>
      have first := alike.evaluate (known condition (List.mem_cons_self ..))
      have same := Condition.evaluate_congr first
      rw [List.all_cons, List.all_cons, same,
        ih fun other member => known other (List.mem_cons_of_mem condition member)]

theorem act (alike : Alike content settings heard now first second)
    (tunes : content.Tunes heard) {action : RuleAction Stage} (scripted : action.Scripted) :
    Alike content settings heard now (action.perform first) (action.perform second) := by
  cases action with
  | goto target => exact alike.perform tunes (.goto target)
  | setVariable path value => exact alike.perform tunes (.write path value)
  | notification notification => exact alike.perform tunes (.notify notification)
  | dialogue character text => exact alike.perform tunes (.showLine character text)
  | endStory => exact alike.perform tunes .endStory
  | restartStory unitId => exact alike.perform tunes (.restart unitId)
  | log message => exact alike
  | callback run => exact alike.describes tunes (scripted run rfl)

/-- A scripted rule keeps stages alike when it fires. -/
theorem fire (alike : Alike content settings heard now first second)
    (tunes : content.Tunes heard) {rule : Rule Stage} (scripted : rule.Scripted) :
    Alike content settings heard now (rule.perform first) (rule.perform second) := by
  obtain ⟨-, actions, after⟩ := scripted
  simp only [Rule.perform]
  generalize rule.actions = remaining at actions
  have acted : Alike content settings heard now (remaining.foldl RuleAction.perform first)
      (remaining.foldl RuleAction.perform second) := by
    induction remaining generalizing first second with
    | nil => exact alike
    | cons action remaining ih =>
        have rest := fun other member => actions other (List.mem_cons_of_mem action member)
        exact ih (alike.act tunes (actions action (List.mem_cons_self ..))) rest
  cases callback : rule.onTriggered with
  | none => exact acted
  | some run => exact acted.describes tunes (after run callback)

/-- A pass of scripted rules is the same on both stages. -/
theorem evaluateAt (alike : Alike content settings heard now first second)
    (tunes : content.Tunes heard) {engine : RuleEngine Stage}
    (scripted : ∀ rule ∈ engine.rules, rule.Scripted) (moment : Instant) :
    (engine.evaluateAt second moment).1 = (engine.evaluateAt first moment).1 ∧
      Alike content settings heard now (engine.evaluateAt first moment).2.1
        (engine.evaluateAt second moment).2.1 :=
  RuleEngine.evaluateAt_alike
    (fun rule known _ _ alike => alike.conditionsHold (scripted rule known))
    (fun rule known _ _ alike => alike.fire tunes (scripted rule known)) alike moment

end Stage.Alike

/-! ## Rules from documents -/

/-- No document is read as a predicate. -/
theorem Check.ofKind?_scripted {kind : String} {document : Json} {check : Check Stage}
    (read : ofKind? kind document = some check) : check.Scripted := by
  rintro holds rfl
  simp only [ofKind?] at read
  split at read <;>
    simp [Option.bind_eq_bind, Option.bind_eq_some_iff] at read

theorem Condition.ofJson?_scripted {document : Json} {condition : Condition Stage}
    (read : ofJson? document = some condition) : condition.check.Scripted := by
  unfold ofJson? at read
  split at read
  · simp only [Option.bind_eq_bind, Option.bind_eq_some_iff] at read
    obtain ⟨known, -, negated, -, ⟨kind, rest⟩, -, check, found, same⟩ := read
    cases same
    exact Check.ofKind?_scripted found
  · cases read

/-- Rules that are read from a text know the stage through its host. -/
theorem Rule.parseAll_scripted {text : String} {rules : List (Rule Stage)}
    (read : parseAll text = .ok rules) {rule : Rule Stage} (member : rule ∈ rules) :
    rule.Scripted := by
  obtain ⟨document, decoded⟩ := mem_parseAll read member
  obtain ⟨silent, conditions, actions⟩ := ofJson?_parts decoded
  constructor
  · intro condition listed
    obtain ⟨item, found⟩ := conditions condition listed
    exact Condition.ofJson?_scripted found
  · intro action listed run same
    obtain ⟨item, found⟩ := actions action listed
    exact absurd same (ofJson?_plain found run)
  · intro run present
    rw [silent] at present
    cases present

end VisualNovel
