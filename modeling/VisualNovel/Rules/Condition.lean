import VisualNovel.Character
import VisualNovel.Rules.Host
import VisualNovel.Rules.Operator

/-!
# Conditions

A condition is a check of the game, taken as it is or negated. A check reads a variable, the
location, the story, the health of a character or its equipment, or asks a predicate of the host.
Most checks compare what they read by an operator; without an operator they do not hold.
-/

namespace VisualNovel

/-- What a check of the location looks at. -/
inductive LocationField where
  /-- The current location. -/
  | current
  /-- The identifier of the location. -/
  | id
  /-- The attributes of the location. -/
  | hasAttribute
  deriving DecidableEq

/-- What a check of the story looks at. -/
inductive StoryField where
  /-- The identifier of the unit. -/
  | id
  /-- The unit that runs. -/
  | active
  /-- Whether a story runs. -/
  | isPlaying
  deriving DecidableEq

/-- What a check of a character looks at. -/
inductive CharacterField where
  /-- The health. -/
  | health
  /-- The health, by its short name. -/
  | hp
  /-- Whether no health is left. -/
  | isDead
  deriving DecidableEq

/-- A check of the game. -/
inductive Check (σ : Type) where
  /-- Compares the value at a path. -/
  | variable (path : String) (operator : Option ComparisonOperator) (value : Value)
  /-- Looks at the location. -/
  | location (field : LocationField) (operator : Option ComparisonOperator) (value : Value)
  /-- Looks at the story. -/
  | story (field : StoryField) (operator : Option ComparisonOperator) (value : Value)
  /-- Looks at the health of a character. -/
  | character (id : String) (field : CharacterField) (operator : Option ComparisonOperator)
      (value : Value)
  /-- Looks at a slot of a character, or for an item in all of them. -/
  | equipment (id field : String) (operator : Option ComparisonOperator) (value : Value)
  /-- Asks a predicate. -/
  | custom (holds : σ → Bool)

/-- A check, taken as it is or negated. -/
structure Condition (σ : Type) where
  /-- The check. -/
  check : Check σ
  /-- Whether the check must fail. -/
  negated : Bool

namespace LocationField

/-- The fields by their names. -/
def names : List (String × LocationField) :=
  [("current", .current), ("id", .id), ("hasAttribute", .hasAttribute)]

/-- The name of the field. -/
def name : LocationField → String
  | .current => "current"
  | .id => "id"
  | .hasAttribute => "hasAttribute"

end LocationField

namespace StoryField

/-- The fields by their names. -/
def names : List (String × StoryField) :=
  [("id", .id), ("active", .active), ("isPlaying", .isPlaying)]

/-- The name of the field. -/
def name : StoryField → String
  | .id => "id"
  | .active => "active"
  | .isPlaying => "isPlaying"

end StoryField

namespace CharacterField

/-- The fields by their names. -/
def names : List (String × CharacterField) :=
  [("health", .health), ("hp", .hp), ("isDead", .isDead)]

/-- The name of the field. -/
def name : CharacterField → String
  | .health => "health"
  | .hp => "hp"
  | .isDead => "isDead"

end CharacterField

namespace Check

variable {σ : Type} [RuleHost σ]

/-- Compares by an operator; without one nothing holds. -/
def compareWith (operator : Option ComparisonOperator) (actual : Option Value)
    (expected : Value) : Bool :=
  operator.any fun operator => operator.compare actual expected

/-- The identifier of a location: its entry of that name, or the location itself. -/
def locationId : Value → Value
  | .map entries => (Dict.get? entries "id").getD .null
  | place => place

/-- Whether a location has the attribute. -/
def hasAttribute (place : Option Value) (wanted : Value) : Bool :=
  let attributes := (place.bind fun place => place.get? "attributes").bind Value.list?
  attributes.any fun items => items.any fun item => item.looseEq wanted

/-- The health of a character: the field of that name unless it is empty, or else its short
name. -/
def healthOf (host : σ) (id : String) : Option Value :=
  let field (key : String) : Option Value :=
    RuleHost.read host ("character." ++ id ++ "." ++ key)
  ((field "health").filter fun value => !value.isEmpty).or (field "hp")

/-- The slots of a character. -/
def slotsOf (host : σ) (id : String) : Dict Value :=
  ((RuleHost.read host ("character." ++ id ++ "." ++ equipmentSlotsKey)).bind Value.map?).getD []

/-- Whether one of the slots holds the item that a value refers to. -/
def holdsItem (slots : Dict Value) (reference : Value) : Bool :=
  match reference.slotItem? with
  | none => false
  | some item => slots.any fun entry => entry.2.slotItem? = some item

/-- Whether the check holds. -/
def evaluate (host : σ) : Check σ → Bool
  | .variable path operator value => compareWith operator (RuleHost.read host path) value
  | .location field operator value =>
    let place := RuleHost.location host
    match field with
    | .hasAttribute => hasAttribute place value
    | _ => compareWith operator (place.map locationId) value
  | .story field operator value =>
    match field with
    | .isPlaying => (Value.bool (RuleHost.isPlaying host)).looseEq value
    | _ => compareWith operator ((RuleHost.activeStory host).map .text) value
  | .character id field operator value =>
    let health := healthOf host id
    match field with
    | .isDead => (health.bind Value.number?).any fun health => health ≤ 0.0
    | _ => compareWith operator health value
  | .equipment id field operator value =>
    let slots := slotsOf host id
    if field = "hasItem" then
      let has := holdsItem slots value
      match operator with
      | some .has => has
      | some .eq => has
      | _ => !has
    else
      let equipped := (Dict.get? slots field).map fun reference =>
        (reference.slotItem?.map Value.text).getD .null
      compareWith operator equipped value
  | .custom holds => holds host

end Check

namespace Condition

/-- Whether the condition holds. -/
def evaluate {σ : Type} [RuleHost σ] (host : σ) (condition : Condition σ) : Bool :=
  condition.check.evaluate host != condition.negated

end Condition

end VisualNovel
