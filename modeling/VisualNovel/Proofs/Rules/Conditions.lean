import VisualNovel.Rules.Condition

/-!
# What conditions depend on

A condition that asks no predicate depends on what the host reads, on the location, on the unit that
runs and on whether a story runs. The conditions of the story tell the last two apart, and those of
equipment see nothing but the slots of a character.
-/

namespace VisualNovel

namespace Check

variable {σ : Type} {check : Check σ}

/-- Whether the check asks a predicate. -/
def isCustom : Check σ → Bool
  | .custom _ => true
  | _ => false

/-- Whether the check looks at the story. -/
def isStory : Check σ → Bool
  | .story .. => true
  | _ => false

variable [RuleHost σ] {first second : σ}

/-- A check that neither asks a predicate nor looks at the story depends on what is read and on the
location. -/
theorem evaluate_congr (plain : check.isCustom = false) (other : check.isStory = false)
    (read : RuleHost.read first = RuleHost.read second)
    (location : RuleHost.location first = RuleHost.location second) :
    check.evaluate first = check.evaluate second := by
  cases check with
  | «variable» path operator value =>
      simp only [evaluate]
      rw [read]
  | location field operator value =>
      simp only [evaluate]
      rw [location]
  | character id field operator value =>
      simp only [evaluate, healthOf]
      rw [read]
  | equipment id field operator value =>
      simp only [evaluate, slotsOf]
      rw [read]
  | story field operator value => cases other
  | custom holds => cases plain

/-- A check of the story depends on the unit and on whether the story runs. -/
theorem evaluate_story (story : check.isStory = true)
    (unit : RuleHost.activeStory first = RuleHost.activeStory second)
    (playing : RuleHost.isPlaying first = RuleHost.isPlaying second) :
    check.evaluate first = check.evaluate second := by
  cases check with
  | story field operator value =>
      simp only [evaluate]
      rw [unit, playing]
  | _ => cases story

/-! ## Equipment -/

/-- What a slot shows to a check: the item that it refers to, or that it refers to none. -/
def itemIn (slots : Dict Value) (slot : String) : Option Value :=
  (Dict.get? slots slot).map fun reference => (reference.slotItem?.map Value.text).getD .null

theorem evaluate_hasItem (host : σ) (id : String) (operator : Option ComparisonOperator)
    (value : Value) :
    (Check.equipment id "hasItem" operator value).evaluate host =
      if operator = some .has ∨ operator = some .eq then holdsItem (slotsOf host id) value
      else !holdsItem (slotsOf host id) value := by
  simp only [evaluate, if_true]
  split
  · rfl
  · rfl
  · rename_i other plain
    rw [if_neg fun affirms => affirms.elim other plain]

theorem evaluate_slot {slot : String} (named : slot ≠ "hasItem") (host : σ) (id : String)
    (operator : Option ComparisonOperator) (value : Value) :
    (Check.equipment id slot operator value).evaluate host =
      compareWith operator (itemIn (slotsOf host id) slot) value := by
  simp only [evaluate, if_neg named]
  rfl

end Check

namespace Condition

variable {σ : Type} [RuleHost σ] {first second : σ}

theorem evaluate_congr {condition : Condition σ}
    (same : condition.check.evaluate first = condition.check.evaluate second) :
    condition.evaluate first = condition.evaluate second := by
  simp only [evaluate]
  rw [same]

/-- The condition that a story runs. -/
def playing : Condition σ :=
  ⟨.story .isPlaying none (.bool true), false⟩

/-- The condition that a unit runs. -/
def runs (unitId : String) : Condition σ :=
  ⟨.story .active (some .eq) (.text unitId), false⟩

theorem evaluate_playing (host : σ) : playing.evaluate host = RuleHost.isPlaying host := by
  change (Value.same (.bool (RuleHost.isPlaying host)) (.bool true) != false) = _
  cases RuleHost.isPlaying host <;> rfl

theorem evaluate_runs (host : σ) (unitId : String) :
    (runs unitId).evaluate host = decide (RuleHost.activeStory host = some unitId) := by
  change (((RuleHost.activeStory host).map Value.text).any (fun actual =>
    actual.looseEq (.text unitId)) != false) = _
  cases RuleHost.activeStory host with
  | none => rfl
  | some active =>
      change ((active == unitId) != false) = _
      by_cases same : active = unitId <;> simp [same]

/-- Hosts on which all conditions of the story agree are in the same unit, and play alike. -/
theorem story_of_agree (agree : ∀ condition : Condition σ, condition.check.isCustom = false →
      condition.evaluate first = condition.evaluate second) :
    RuleHost.activeStory first = RuleHost.activeStory second ∧
      RuleHost.isPlaying first = RuleHost.isPlaying second := by
  constructor
  · apply Option.ext
    intro unitId
    have same := agree (runs unitId) rfl
    rw [evaluate_runs, evaluate_runs] at same
    exact decide_eq_decide.1 same
  · have same := agree playing rfl
    rw [evaluate_playing, evaluate_playing] at same
    exact same

end Condition

end VisualNovel
