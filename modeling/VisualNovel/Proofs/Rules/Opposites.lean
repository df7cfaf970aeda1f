import VisualNovel.Proofs.Rules.Conditions

/-!
# Opposite conditions

Not to be equal is the opposite of being equal, and to be none of a list that of being one of it,
whatever is compared and also where nothing is there to compare. A condition has an opposite in this
way as far as its check uses the operator. The checks of attributes, of a story that runs and of the
dead do not look at it, and the check for an item only tells having it from everything else.
-/

namespace VisualNovel

namespace ComparisonOperator

/-- The operator that holds where this one does not, if there is one. An order has none, because not
all values are ordered. -/
def opposite? : ComparisonOperator → Option ComparisonOperator
  | .eq => some .ne
  | .ne => some .eq
  | .isIn => some .notIn
  | .notIn => some .isIn
  | .has => some .not
  | .not => some .has
  | _ => none

variable {operator opposite : ComparisonOperator}

theorem compare_opposite (opposed : operator.opposite? = some opposite) (actual : Option Value)
    (expected : Value) : opposite.compare actual expected = !operator.compare actual expected := by
  cases operator <;> cases opposed <;> simp only [compare, Bool.not_not]

/-- Whether the operator asks for an item, and not for its absence. -/
def affirms : ComparisonOperator → Bool
  | .has => true
  | .eq => true
  | _ => false

end ComparisonOperator

/-- What a check does with its operator. -/
inductive OperatorUse where
  /-- Compares by it. -/
  | compares
  /-- Asks it whether an item is sought or must be missing. -/
  | seeks
  /-- Does not look at it. -/
  | ignores
  deriving DecidableEq

namespace Check

variable {σ : Type} {check : Check σ}

/-- What the check does with its operator. -/
def use : Check σ → OperatorUse
  | .variable .. => .compares
  | .location field _ _ => if field = .hasAttribute then .ignores else .compares
  | .story field _ _ => if field = .isPlaying then .ignores else .compares
  | .character _ field _ _ => if field = .isDead then .ignores else .compares
  | .equipment _ field _ _ => if field = "hasItem" then .seeks else .compares
  | .custom _ => .ignores

/-- The check with another operator. -/
def withOperator (operator : ComparisonOperator) : Check σ → Check σ
  | .variable path _ value => .variable path (some operator) value
  | .location field _ value => .location field (some operator) value
  | .story field _ value => .story field (some operator) value
  | .character id field _ value => .character id field (some operator) value
  | .equipment id field _ value => .equipment id field (some operator) value
  | .custom holds => .custom holds

variable [RuleHost σ] (host : σ)

/-- A check that compares takes two values to its operator, which decides. -/
theorem evaluate_compares (compares : check.use = .compares) :
    ∃ actual expected, ∀ operator : ComparisonOperator,
      (check.withOperator operator).evaluate host = operator.compare actual expected := by
  cases check with
  | «variable» path operator value => exact ⟨_, value, fun _ => rfl⟩
  | location field operator value =>
      cases field with
      | hasAttribute => cases compares
      | _ => exact ⟨_, value, fun _ => rfl⟩
  | story field operator value =>
      cases field with
      | isPlaying => cases compares
      | _ => exact ⟨_, value, fun _ => rfl⟩
  | character id field operator value =>
      cases field with
      | isDead => cases compares
      | _ => exact ⟨_, value, fun _ => rfl⟩
  | equipment id field operator value =>
      by_cases seeks : field = "hasItem"
      · simp only [use, if_pos seeks] at compares
        cases compares
      · exact ⟨_, value, fun operator => evaluate_slot seeks host id (some operator) value⟩
  | custom holds => cases compares

/-- A check for an item answers an operator that does not ask for it with the opposite. -/
theorem evaluate_seeks (seeks : check.use = .seeks) :
    ∃ found : Bool, ∀ operator : ComparisonOperator,
      (check.withOperator operator).evaluate host = if operator.affirms then found else !found := by
  cases check with
  | equipment id field operator value =>
      by_cases item : field = "hasItem"
      · subst item
        refine ⟨holdsItem (slotsOf host id) value, fun operator => ?_⟩
        simp only [withOperator, evaluate_hasItem]
        cases operator <;> rfl
      · simp only [use, if_neg item] at seeks
        cases seeks
  | location field operator value => cases field <;> cases seeks
  | story field operator value => cases field <;> cases seeks
  | character id field operator value => cases field <;> cases seeks
  | _ => cases seeks

theorem evaluate_ignores (ignores : check.use = .ignores) :
    ∃ answer, ∀ operator : ComparisonOperator,
      (check.withOperator operator).evaluate host = answer := by
  cases check with
  | location field operator value =>
      cases field with
      | hasAttribute => exact ⟨hasAttribute (RuleHost.location host) value, fun _ => rfl⟩
      | _ => cases ignores
  | story field operator value =>
      cases field with
      | isPlaying => exact ⟨(Value.bool (RuleHost.isPlaying host)).looseEq value, fun _ => rfl⟩
      | _ => cases ignores
  | character id field operator value =>
      cases field with
      | isDead => exact ⟨(character id .isDead none value).evaluate host, fun _ => rfl⟩
      | _ => cases ignores
  | equipment id field operator value =>
      by_cases item : field = "hasItem" <;> simp [use, item] at ignores
  | custom holds => exact ⟨holds host, fun _ => rfl⟩
  | _ => cases ignores

end Check

namespace Condition

variable {σ : Type} [RuleHost σ]

/-- The condition with another operator. -/
def withOperator (operator : ComparisonOperator) (condition : Condition σ) : Condition σ :=
  { condition with check := condition.check.withOperator operator }

/-- Two operators are opposite for a condition when they are for its check, negated or not. -/
theorem evaluate_eq_not_iff (host : σ) (condition : Condition σ)
    (first second : ComparisonOperator) :
    (condition.withOperator second).evaluate host =
        !(condition.withOperator first).evaluate host ↔
      (condition.check.withOperator second).evaluate host =
        !(condition.check.withOperator first).evaluate host := by
  simp only [evaluate, withOperator]
  cases condition.negated <;> simp

/-- On every host a condition with not-equal is the opposite of the one with equal, unless its check
does not look at the operator; and the one with none of a list is the opposite of the one with one of
it just when the check compares. -/
theorem evaluate_opposite (host : σ) (condition : Condition σ) :
    ((condition.withOperator .ne).evaluate host = !(condition.withOperator .eq).evaluate host ↔
        condition.check.use ≠ .ignores) ∧
      ((condition.withOperator .notIn).evaluate host =
          !(condition.withOperator .isIn).evaluate host ↔
        condition.check.use = .compares) := by
  rw [evaluate_eq_not_iff, evaluate_eq_not_iff]
  cases use : condition.check.use with
  | compares =>
      obtain ⟨actual, expected, answers⟩ := Check.evaluate_compares host use
      simp only [answers]
      have unequal : ComparisonOperator.ne.compare actual expected =
          !ComparisonOperator.eq.compare actual expected :=
        ComparisonOperator.compare_opposite rfl actual expected
      have missing : ComparisonOperator.notIn.compare actual expected =
          !ComparisonOperator.isIn.compare actual expected :=
        ComparisonOperator.compare_opposite rfl actual expected
      simp [unequal, missing]
  | seeks =>
      obtain ⟨found, answers⟩ := Check.evaluate_seeks host use
      simp [answers, ComparisonOperator.affirms]
  | ignores =>
      obtain ⟨answer, answers⟩ := Check.evaluate_ignores host use
      simp [answers]

end Condition

end VisualNovel
