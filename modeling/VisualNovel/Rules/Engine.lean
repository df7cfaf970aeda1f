import VisualNovel.Rules.Rule

/-!
# The rule engine

The engine holds rules with distinct identifiers in the order of their registration. A pass first
judges every enabled rule on the host as it is, and then fires those that are due, one after the
other. What a rule was judged to be is remembered for rules that fire on a change.
-/

namespace VisualNovel

/-- Why rules were refused. -/
inductive RuleError where
  /-- A rule has a blank identifier. -/
  | missingId
  /-- Two rules have the same identifier. -/
  | duplicateId (id : String)
  /-- A document is not a list of rules. -/
  | malformed
  deriving DecidableEq

namespace RuleError

/-- The wording of an error. -/
def message : RuleError → String
  | .missingId => "rule id must not be empty"
  | .duplicateId id => "duplicate rule id: \"" ++ id ++ "\""
  | .malformed => "invalid rule document: the document does not have the expected form"

end RuleError

/-- Rules and what was seen of their conditions. -/
structure RuleEngine (σ : Type) where
  /-- The rules in the order of their registration. -/
  rules : List (Rule σ)
  /-- Whether the conditions of a rule held when it was last judged. -/
  seen : Dict Bool
  /-- Whether passes take place. -/
  running : Bool

namespace RuleEngine

variable {σ : Type}

/-- An engine without rules. -/
def empty : RuleEngine σ := ⟨[], [], false⟩

/-- A rule by its identifier. -/
def rule? (engine : RuleEngine σ) (id : String) : Option (Rule σ) :=
  engine.rules.find? fun rule => rule.id = id

/-- Adds a rule, as if it had never fired. -/
def register (engine : RuleEngine σ) (rule : Rule σ) : Except RuleError (RuleEngine σ) :=
  if (Text.trimmed rule.id).isEmpty then .error .missingId
  else if (engine.rule? rule.id).isSome then .error (.duplicateId rule.id)
  else .ok { engine with rules := engine.rules ++ [rule.withoutStatistics] }

/-- Adds rules up to the first that is refused. -/
def registerAll : List (Rule σ) → RuleEngine σ → RuleEngine σ × Except RuleError Unit
  | [], engine => (engine, .ok ())
  | rule :: rules, engine =>
    match engine.register rule with
    | .ok engine => registerAll rules engine
    | .error error => (engine, .error error)

/-- Switches a rule on or off; `none` when there is no such rule. -/
def setEnabled? (engine : RuleEngine σ) (id : String) (enabled : Bool) : Option (RuleEngine σ) :=
  if (engine.rule? id).isSome then
    let change (rule : Rule σ) : Rule σ := if rule.id = id then { rule with enabled } else rule
    some { engine with rules := engine.rules.map change }
  else none

/-- Lets passes take place. -/
def start (engine : RuleEngine σ) : RuleEngine σ := { engine with running := true }

/-- Lets no passes take place. -/
def stop (engine : RuleEngine σ) : RuleEngine σ := { engine with running := false }

/-- Forgets how often and when rules fired. -/
def resetStatistics (engine : RuleEngine σ) : RuleEngine σ :=
  { engine with rules := engine.rules.map Rule.withoutStatistics }

/-- Forgets what was seen of conditions and of firing. -/
def reset (engine : RuleEngine σ) : RuleEngine σ :=
  { engine.resetStatistics with seen := [] }

/-- Whether a rule is due on the host: it is enabled, its conditions hold, and a rule that fires on
a change was not seen to hold before. -/
def isDue [RuleHost σ] (engine : RuleEngine σ) (host : σ) (rule : Rule σ) : Bool :=
  rule.enabled && rule.conditionsHold host &&
    (rule.mode = .always || !(Dict.get? engine.seen rule.id).getD false)

/-- What is seen after every enabled rule was judged on the host. -/
def judged [RuleHost σ] (engine : RuleEngine σ) (host : σ) : Dict Bool :=
  (engine.rules.filter Rule.enabled).foldl
    (fun seen rule => Dict.insert rule.id (rule.conditionsHold host) seen) engine.seen

/-- Fires the rules that are due and not suppressed, in order. The results are the rules, the host,
and the identifiers of those that fired. -/
def fire [RuleHost σ] (now : Instant) : List (Rule σ × Bool) → σ → List (Rule σ) × σ × List String
  | [], host => ([], host, [])
  | (rule, due) :: rest, host =>
    if due && !rule.isSuppressed now then
      let (rules, host, fired) := fire now rest (rule.perform host)
      (rule.triggered now :: rules, host, rule.id :: fired)
    else
      let (rules, host, fired) := fire now rest host
      (rule :: rules, host, fired)

/-- One pass at a time. -/
def evaluateAt [RuleHost σ] (engine : RuleEngine σ) (host : σ) (now : Instant) :
    RuleEngine σ × σ × List String :=
  if engine.running then
    let due := engine.rules.map fun rule => (rule, engine.isDue host rule)
    let seen := engine.judged host
    let (rules, host, fired) := fire now due host
    ({ engine with rules, seen }, host, fired)
  else (engine, host, [])

end RuleEngine

end VisualNovel
