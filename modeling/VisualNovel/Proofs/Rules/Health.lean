import VisualNovel.Proofs.Value
import VisualNovel.Proofs.Value.Rounding
import VisualNovel.Rules.Condition
import VisualNovel.Session.Stage

/-!
# The health of a character

The health of a character is the field of that name, and its short name where the field is missing
or empty. A number counts as empty when it is zero: a health of zero is passed over, and the
character is dead if the short name says so.
-/

namespace VisualNovel

namespace Value

variable {value : Value}

/-- Whether the value is a number, whole or finite. -/
def isNumber : Value → Bool
  | .int _ => true
  | .float value => value.isFinite
  | _ => false

/-- Whether the value is the number zero. -/
def isZero : Value → Bool
  | .int value => value == 0
  | .float value => value == 0.0
  | _ => false

/-- Whether the value is a number that is not above zero. -/
def isSpent : Value → Bool
  | .int value => value ≤ 0
  | .float value => value ≤ 0.0
  | _ => false

/-- A number is empty when it is zero. -/
theorem isEmpty_of_isNumber (number : value.isNumber = true) : value.isEmpty = value.isZero := by
  cases value with
  | int value => rfl
  | float value =>
      simp only [isEmpty, isZero]
      rw [float_isNaN_of_isFinite number, Bool.or_false]
  | _ => cases number

/-- A number counts as itself, so that it is not above zero where it counts as no more. -/
theorem isSpent_of_isNumber (number : value.isNumber = true) :
    (value.number?.any fun health => health ≤ 0.0) = value.isSpent := by
  cases value with
  | int value =>
      simp only [number?, isSpent]
      rw [Option.filter_some_pos (by rw [Double.isNaN_intFloat]; rfl), Option.any_some]
      exact decide_eq_decide.2 (Double.intFloat_le_zero_iff value)
  | float value =>
      simp only [number?, isSpent]
      rw [Option.filter_some_pos (by rw [float_isNaN_of_isFinite number]; rfl), Option.any_some]
  | _ => cases number

theorem isSpent_of_isZero (zero : value.isZero = true) : value.isSpent = true := by
  cases value with
  | int value =>
      have same : value = 0 := eq_of_beq zero
      rw [same]
      rfl
  | float value => exact decide_eq_true (Double.le_zero_of_beq zero)
  | _ => cases zero

end Value

namespace Check

variable {σ : Type} [RuleHost σ]

/-- What a host reads of a character. -/
def field (host : σ) (id key : String) : Option Value :=
  RuleHost.read host ("character." ++ id ++ "." ++ key)

/-- Whether a health that may be missing counts as a number that is not above zero. -/
def spent (health : Option Value) : Bool :=
  (health.bind Value.number?).any fun health => health ≤ 0.0

/-- Whether the checks of a character compare this health, and the character is dead by it. -/
def Sees (host : σ) (id : String) (health : Option Value) : Prop :=
  ∀ operator expected,
    (Check.character id .isDead operator expected).evaluate host = spent health ∧
      ∀ kind ≠ .isDead, (Check.character id kind operator expected).evaluate host =
        compareWith operator health expected

theorem sees_healthOf (host : σ) (id : String) : Sees host id (healthOf host id) := by
  intro operator expected
  constructor
  · rfl
  · intro kind other
    cases kind with
    | isDead => exact absurd rfl other
    | _ => rfl

/-- The short name counts where the health is missing or empty. -/
theorem healthOf_eq (host : σ) (id : String) :
    healthOf host id =
      if (field host id "health").all Value.isEmpty then field host id "hp"
      else field host id "health" := by
  have sought : healthOf host id =
      ((field host id "health").filter fun value => !value.isEmpty).or (field host id "hp") := rfl
  rw [sought]
  cases field host id "health" with
  | none => rfl
  | some health =>
      rw [Option.filter_some, Option.all_some]
      cases health.isEmpty <;> rfl

/-- The checks of a character see its short name where the health is missing. Of a health that is a
number they see this number unless it is zero, and the short name then; so the character is dead
when its health is not above zero, except that a health of zero needs a short name that says the
same. -/
theorem evaluate_health (host : σ) (id : String) :
    (field host id "health" = none → Sees host id (field host id "hp")) ∧
      ∀ health, field host id "health" = some health → health.isNumber = true →
        Sees host id (if health.isZero then field host id "hp" else some health) ∧
          ∀ operator expected,
            ((Check.character id .isDead operator expected).evaluate host = health.isSpent ↔
              health.isZero = false ∨ spent (field host id "hp") = true) := by
  have sees := sees_healthOf host id
  rw [healthOf_eq] at sees
  constructor
  · intro missing
    rw [missing] at sees
    exact sees
  · intro health found number
    rw [found, Option.all_some, Value.isEmpty_of_isNumber number] at sees
    refine ⟨sees, ?_⟩
    intro operator expected
    rw [(sees operator expected).1]
    cases zero : health.isZero with
    | false =>
        have dead : spent (some health) = health.isSpent := Value.isSpent_of_isNumber number
        simp only [Bool.false_eq_true, if_false, true_or, iff_true]
        exact dead
    | true =>
        rw [Value.isSpent_of_isZero zero]
        simp only [Bool.true_eq_false, if_true, false_or]

/-- A stage with a player who has no health left, and an ally whose health goes by the short
name. -/
def fallen : Stage where
  interpreter := { Interpreter.new Library.empty.toContent .standard with
    state := (StateTree.empty.insertCharacter
      (.ofRecord "mc" ⟨[("health", .int 0)], .null, []⟩)).insertCharacter
      (.ofRecord "ally" ⟨[("hp", .int 0)], .null, []⟩) }
  location := none
  notifications := []

theorem evaluate_health_fallen :
    (∃ health, field fallen "mc" "health" = some health ∧ health.isNumber = true ∧
      health.isSpent = true ∧
      (Check.character "mc" .isDead none .null).evaluate fallen = false) ∧
    field fallen "ally" "health" = none ∧
      (Check.character "ally" .isDead none .null).evaluate fallen = true := by
  obtain ⟨-, of_number⟩ := evaluate_health fallen "mc"
  obtain ⟨of_missing, -⟩ := evaluate_health fallen "ally"
  constructor
  · have read : (field fallen "mc" "health").any
        (fun health => health.isNumber && health.isZero) = true := by
      decide +kernel
    have unnamed : field fallen "mc" "hp" = none := by
      apply Option.isNone_iff_eq_none.1
      decide +kernel
    obtain ⟨health, found, both⟩ := (Option.any_eq_true _ _).1 read
    obtain ⟨number, zero⟩ := Bool.and_eq_true_iff.1 both
    have spent := Value.isSpent_of_isZero zero
    obtain ⟨-, agrees⟩ := of_number health found number
    have differs := agrees none .null
    rw [zero, unnamed, spent] at differs
    refine ⟨health, found, number, spent, ?_⟩
    apply Bool.eq_false_iff.2
    intro dead
    cases differs.1 dead with
    | inl absurd => cases absurd
    | inr absurd => cases absurd
  · have missing : field fallen "ally" "health" = none := by
      apply Option.isNone_iff_eq_none.1
      decide +kernel
    refine ⟨missing, ?_⟩
    rw [(of_missing missing none .null).1]
    decide +kernel

end Check

end VisualNovel
