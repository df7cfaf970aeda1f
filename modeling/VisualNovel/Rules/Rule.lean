import VisualNovel.Instant
import VisualNovel.Rules.Condition

/-!
# Rules

A rule has conditions and actions. It fires on every pass on which its conditions hold, or only
when they begin to hold; a rule may fire once only, and at most once in a span of time.
-/

namespace VisualNovel

/-- What a rule does when it fires. -/
inductive RuleAction (σ : Type) where
  /-- Redirects the story. -/
  | goto (target : String)
  /-- Writes a value to a path. -/
  | setVariable (path : String) (value : Value)
  /-- Sends a notification. -/
  | notification (notification : Notification)
  /-- Shows a line over what is on screen. -/
  | dialogue (character : Option String) (text : String)
  /-- Ends the story. -/
  | endStory
  /-- Restarts the story. -/
  | restartStory (unitId : Option String)
  /-- Leaves a message to the operator; the game does not change. -/
  | log (message : String)
  /-- Changes the host. -/
  | callback (run : σ → σ)

/-- When a rule is due. -/
inductive TriggerMode where
  /-- Whenever the conditions hold. -/
  | always
  /-- When the conditions begin to hold. -/
  | onChange
  deriving DecidableEq

/-- A rule and what is known of its firing. -/
structure Rule (σ : Type) where
  /-- The identifier. -/
  id : String
  /-- The name for display. -/
  name : String
  /-- What the rule is for. -/
  description : String
  /-- Whether the rule takes part. -/
  enabled : Bool
  /-- When the rule is due. -/
  mode : TriggerMode
  /-- The whole milliseconds that have to pass between two firings. -/
  debounceMs : Nat
  /-- Whether the rule fires only once. -/
  once : Bool
  /-- The conditions, all of which have to hold. -/
  conditions : List (Condition σ)
  /-- The actions in order. -/
  actions : List (RuleAction σ)
  /-- Runs after the actions. -/
  onTriggered : Option (σ → σ)
  /-- How often the rule fired. -/
  triggerCount : Nat
  /-- When the rule fired last. -/
  lastTriggered : Option Instant

namespace TriggerMode

/-- The name of the mode. -/
def name : TriggerMode → String
  | .always => "always"
  | .onChange => "on-change"

/-- The modes by their names. -/
def names : List (String × TriggerMode) := [("always", .always), ("on-change", .onChange)]

end TriggerMode

variable {σ : Type}

namespace RuleAction

/-- The host after an action. -/
def perform [RuleHost σ] (host : σ) : RuleAction σ → σ
  | .goto target => RuleHost.goto host target
  | .setVariable path value => RuleHost.write host path value
  | .notification message => RuleHost.notify host message
  | .dialogue character text => RuleHost.showLine host character text
  | .endStory => RuleHost.endStory host
  | .restartStory unitId => RuleHost.restart host unitId
  | .log _ => host
  | .callback run => run host

end RuleAction

namespace Rule

/-- A rule without conditions and actions. -/
def new (id : String) : Rule σ :=
  ⟨id, "", "", true, .always, 0, false, [], [], none, 0, none⟩

/-- Whether all conditions hold. -/
def conditionsHold [RuleHost σ] (host : σ) (rule : Rule σ) : Bool :=
  rule.conditions.all fun condition => condition.evaluate host

/-- Whether the rule may not fire now: it fired and does so only once, or it fired too recently. -/
def isSuppressed (now : Instant) (rule : Rule σ) : Bool :=
  (rule.once && rule.triggerCount > 0) ||
    (rule.debounceMs > 0 &&
      rule.lastTriggered.any fun last => Instant.elapsed last now < rule.debounceMs)

/-- The rule after it fired. -/
def triggered (now : Instant) (rule : Rule σ) : Rule σ :=
  { rule with triggerCount := rule.triggerCount + 1, lastTriggered := some now }

/-- The rule as if it had never fired. -/
def withoutStatistics (rule : Rule σ) : Rule σ :=
  { rule with triggerCount := 0, lastTriggered := none }

/-- The host after all actions of the rule. -/
def perform [RuleHost σ] (host : σ) (rule : Rule σ) : σ :=
  let acted := rule.actions.foldl RuleAction.perform host
  (rule.onTriggered.map (· acted)).getD acted

end Rule

end VisualNovel
