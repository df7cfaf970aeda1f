import VisualNovel.Json.Reader
import VisualNovel.Rules.Engine

/-!
# Rules as documents

Conditions and actions are objects whose member `type` names their kind. Predicates and callbacks
have no document, so a rule with one cannot be written.
-/

namespace VisualNovel

open Json (Fields optionalMember)

variable {σ : Type}

namespace Notification

/-- The severities by their names. -/
def severityNames : List (String × Severity) :=
  Severity.all.map fun severity => (severity.name, severity)

/-- Reads a notification. -/
def ofJson? (document : Json) : Option Notification := do
  let fields ← Json.recordFields? ["text", "notificationType", "duration"] document
  let text ← fields.required? "text" Json.text?
  let severity ← fields.orDefault? "notificationType" .info (Json.namedWithin? severityNames)
  let duration ← fields.optional? "duration" Json.natural?
  some ⟨text, severity, duration⟩

/-- The members of a notification. -/
def toMembers (notification : Notification) : Fields :=
  [("text", .text notification.text), ("notificationType", .text notification.severity.name)] ++
    optionalMember "duration" Json.natural notification.duration

end Notification

namespace Check

/-- The kinds of checks in the order of their positions. -/
def kindNames : List String := ["variable", "location", "story", "character", "equipment"]

/-- The operator of a check, which may be left out. -/
def operatorOf? (fields : Fields) : Option (Option ComparisonOperator) :=
  fields.optional? "operator" (Json.namedWithin? ComparisonOperator.names)

/-- The expected value of a check; absence when left out. -/
def valueOf? (fields : Fields) : Option Value :=
  fields.orDefault? "value" .null Value.ofJson?

/-- The character of a check; the player when left out. -/
def characterOf? (fields : Fields) : Option String :=
  fields.orDefault? "character" "mc" Json.text?

/-- Reads the fields of a check of a known kind. -/
def ofKind? (kind : String) (document : Json) : Option (Check σ) := do
  match kind with
  | "variable" =>
    let fields ← Json.recordFields? ["path", "operator", "value"] document
    some (.variable (← fields.required? "path" Json.text?) (← operatorOf? fields)
      (← valueOf? fields))
  | "location" =>
    let fields ← Json.recordFields? ["field", "operator", "value"] document
    let field ← fields.orDefault? "field" .current (Json.namedWithin? LocationField.names)
    some (.location field (← operatorOf? fields) (← valueOf? fields))
  | "story" =>
    let fields ← Json.recordFields? ["field", "operator", "value"] document
    let field ← fields.required? "field" (Json.namedWithin? StoryField.names)
    some (.story field (← operatorOf? fields) (← valueOf? fields))
  | "character" =>
    let fields ← Json.recordFields? ["character", "field", "operator", "value"] document
    let field ← fields.required? "field" (Json.namedWithin? CharacterField.names)
    some (.character (← characterOf? fields) field (← operatorOf? fields) (← valueOf? fields))
  | "equipment" =>
    let fields ← Json.recordFields? ["character", "field", "operator", "value"] document
    let field ← fields.required? "field" Json.text?
    some (.equipment (← characterOf? fields) field (← operatorOf? fields) (← valueOf? fields))
  | _ => none

/-- The members of the operator and the expected value. -/
def comparisonMembers (operator : Option ComparisonOperator) (value : Value) : Fields :=
  optionalMember "operator" (fun operator => .text operator.name) operator ++
    [("value", value.toJson)]

/-- The members of a check; a predicate has none. -/
def toMembers? : Check σ → Option Fields
  | .variable path operator value =>
    some ([("type", .text "variable"), ("path", .text path)] ++ comparisonMembers operator value)
  | .location field operator value =>
    some ([("type", .text "location"), ("field", .text field.name)] ++
      comparisonMembers operator value)
  | .story field operator value =>
    some ([("type", .text "story"), ("field", .text field.name)] ++
      comparisonMembers operator value)
  | .character id field operator value =>
    some ([("type", .text "character"), ("character", .text id), ("field", .text field.name)] ++
      comparisonMembers operator value)
  | .equipment id field operator value =>
    some ([("type", .text "equipment"), ("character", .text id), ("field", .text field)] ++
      comparisonMembers operator value)
  | .custom _ => none

end Check

namespace Condition

/-- Reads a condition. The negation stands beside the fields of the check. -/
def ofJson? : Json → Option (Condition σ)
  | .object members => do
    let known ← Json.knownMembers? ["not"] members
    let negated ← known.orDefault? "not" false Json.bool?
    let others := members.filter fun member => member.1 ≠ "not"
    let (kind, rest) ← Json.tagged? Check.kindNames true (.object others)
    some ⟨← Check.ofKind? kind rest, negated⟩
  | _ => none

/-- The document of a condition. -/
def toJson? (condition : Condition σ) : Option Json :=
  condition.check.toMembers?.map fun members =>
    .object (members ++ if condition.negated then [("not", .bool true)] else [])

end Condition

namespace RuleAction

/-- The kinds of actions. -/
def kindNames : List String :=
  ["goto", "setVariable", "notification", "dialogue", "endStory", "restartStory", "log"]

/-- Reads the fields of an action of a known kind. -/
def ofKind? (kind : String) (document : Json) : Option (RuleAction σ) := do
  match kind with
  | "goto" =>
    let fields ← Json.recordFields? ["target"] document
    (fields.required? "target" Json.text?).map .goto
  | "setVariable" =>
    let fields ← Json.recordFields? ["path", "value"] document
    let path ← fields.required? "path" Json.text?
    let value ← fields.orDefault? "value" .null Value.ofJson?
    some (.setVariable path value)
  | "notification" => (Notification.ofJson? document).map .notification
  | "dialogue" =>
    let fields ← Json.recordFields? ["character", "text"] document
    let character ← fields.optional? "character" Json.text?
    let text ← fields.required? "text" Json.text?
    some (.dialogue character text)
  | "endStory" => (Json.recordFields? [] document).map fun _ => .endStory
  | "restartStory" =>
    let fields ← Json.recordFields? ["storyId"] document
    (fields.optional? "storyId" Json.text?).map .restartStory
  | "log" =>
    let fields ← Json.recordFields? ["message"] document
    (fields.required? "message" Json.text?).map .log
  | _ => none

/-- Reads an action. -/
def ofJson? (document : Json) : Option (RuleAction σ) := do
  let (kind, rest) ← Json.tagged? kindNames false document
  ofKind? kind rest

/-- The document of an action; a callback has none. -/
def toJson? : RuleAction σ → Option Json
  | .goto target => some (.object [("type", .text "goto"), ("target", .text target)])
  | .setVariable path value =>
    some (.object [("type", .text "setVariable"), ("path", .text path), ("value", value.toJson)])
  | .notification content =>
    some (.object (("type", .text "notification") :: content.toMembers))
  | .dialogue character text =>
    some (.object ([("type", .text "dialogue")] ++ optionalMember "character" Json.text character ++
      [("text", .text text)]))
  | .endStory => some (.object [("type", .text "endStory")])
  | .restartStory unitId =>
    some (.object (("type", .text "restartStory") :: optionalMember "storyId" Json.text unitId))
  | .log message => some (.object [("type", .text "log"), ("message", .text message)])
  | .callback _ => none

end RuleAction

namespace Rule

/-- The fields of a rule. -/
def fieldNames : List String :=
  ["id", "name", "description", "enabled", "triggerMode", "debounce", "once", "conditions",
    "actions"]

/-- Reads a rule. -/
def ofJson? (document : Json) : Option (Rule σ) := do
  let fields ← Json.recordFields? fieldNames document
  let id ← fields.required? "id" Json.text?
  let name ← fields.orDefault? "name" "" Json.text?
  let description ← fields.orDefault? "description" "" Json.text?
  let enabled ← fields.orDefault? "enabled" true Json.bool?
  let mode ← fields.orDefault? "triggerMode" .always (Json.named? TriggerMode.names)
  let debounceMs ← fields.orDefault? "debounce" 0 Json.natural?
  let once ← fields.orDefault? "once" false Json.bool?
  let conditions ← fields.orDefault? "conditions" [] (Json.listOf? Condition.ofJson?)
  let actions ← fields.orDefault? "actions" [] (Json.listOf? RuleAction.ofJson?)
  some { Rule.new id with name, description, enabled, mode, debounceMs, once, conditions, actions }

/-- The document of a rule; a rule with a predicate or a callback has none. -/
def toJson? (rule : Rule σ) : Option Json := do
  let conditions ← rule.conditions.mapM Condition.toJson?
  let actions ← rule.actions.mapM RuleAction.toJson?
  let description : Fields :=
    if rule.description.isEmpty then [] else [("description", .text rule.description)]
  some (.object ([("id", .text rule.id), ("name", .text rule.name)] ++ description ++
    [("enabled", .bool rule.enabled), ("triggerMode", .text rule.mode.name),
      ("debounce", .natural rule.debounceMs), ("once", .bool rule.once),
      ("conditions", .array conditions), ("actions", .array actions)]))

/-- Reads a list of rules. -/
def listOfJson? (document : Json) : Option (List (Rule σ)) :=
  Json.listOf? ofJson? document

/-- Reads a text as a list of rules. -/
def parseAll (text : String) : Except RuleError (List (Rule σ)) :=
  match (Json.read? text).bind listOfJson? with
  | some rules => .ok rules
  | none => .error .malformed

end Rule

end VisualNovel
