import VisualNovel.Proofs.Value.Rounding
import VisualNovel.Rules.Operator

/-!
# Comparing whole numbers

Whole numbers are compared as the doubles that are nearest to them. Up to 53 digits in base two the
comparison is exact; beyond, numbers that go to the same double count as equal.
-/

namespace VisualNovel.ComparisonOperator

open Double

/-- The operators relate two values as two whole numbers are related. -/
structure ComparesAs (left right : Value) (first second : Int) : Prop where
  eq : ComparisonOperator.eq.compare (some left) right = true ↔ first = second
  ne : ComparisonOperator.ne.compare (some left) right = true ↔ first ≠ second
  lt : ComparisonOperator.lt.compare (some left) right = true ↔ first < second
  lte : ComparisonOperator.lte.compare (some left) right = true ↔ first ≤ second
  gt : ComparisonOperator.gt.compare (some left) right = true ↔ second < first
  gte : ComparisonOperator.gte.compare (some left) right = true ↔ second ≤ first

variable {left right : Int64}

theorem looseEq_ints (left right : Int64) :
    (Value.int left).looseEq (.int right) =
      decide (rounded left.toInt = rounded right.toInt) := by
  apply Bool.eq_iff_iff.2
  rw [decide_eq_true_iff, ← intFloat_beq_iff]
  rfl

theorem order?_ints (left right : Int64) :
    order? (.int left) (.int right) =
      some (Ord.compare (rounded left.toInt) (rounded right.toInt)) := by
  simp only [order?, Value.float?]
  rw [if_congr (intFloat_lt_iff left right) rfl rfl, if_congr (intFloat_beq_iff left right) rfl rfl,
    if_congr (intFloat_lt_iff right left) rfl rfl]
  rcases Int.lt_trichotomy (rounded left.toInt) (rounded right.toInt) with less | same | more
  · rw [if_pos less, Int.compare_eq_lt.2 less]
  · rw [if_neg (Int.not_lt.2 same.ge), if_pos same, Int.compare_eq_eq.2 same]
  · rw [if_neg (Int.not_lt.2 more.le), if_neg more.ne', if_pos more, Int.compare_eq_gt.2 more]

theorem equals_ints (left right : Int64) :
    equals (some (.int left)) (.int right) = decide (rounded left.toInt = rounded right.toInt) :=
  looseEq_ints left right

theorem ordered_ints (accepted : Ordering → Bool) (left right : Int64) :
    ordered accepted (some (.int left)) (.int right) =
      accepted (Ord.compare (rounded left.toInt) (rounded right.toInt)) := by
  simp only [ordered, Option.bind_some]
  rw [order?_ints, Option.any_some]

/-- Whole numbers are related as the doubles that they go to. -/
theorem comparesAs_rounded (left right : Int64) :
    ComparesAs (.int left) (.int right) (rounded left.toInt) (rounded right.toInt) := by
  constructor <;> simp only [compare]
  case eq => rw [equals_ints, decide_eq_true_iff]
  case ne => rw [equals_ints, Bool.not_eq_true', decide_eq_false_iff_not]
  case lt => rw [ordered_ints, Ordering.isLT_iff_eq_lt, Int.compare_eq_lt]
  case lte => rw [ordered_ints, Int.isLE_compare]
  case gt => rw [ordered_ints, Ordering.isGT_iff_eq_gt, Int.compare_eq_gt]
  case gte => rw [ordered_ints, Int.isGE_compare]

/-- Just one of the three relations is there. -/
theorem countP_relations (left right : Int64) :
    ([.lt, .eq, .gt].countP fun operator : ComparisonOperator =>
      operator.compare (some (.int left)) (.int right)) = 1 := by
  have relations := comparesAs_rounded left right
  rcases Int.lt_trichotomy (rounded left.toInt) (rounded right.toInt) with less | same | more
  · have equal := Bool.eq_false_iff.2 fun holds => less.ne (relations.eq.1 holds)
    have above := Bool.eq_false_iff.2 fun holds => less.not_gt (relations.gt.1 holds)
    simp [relations.lt.2 less, equal, above]
  · have below := Bool.eq_false_iff.2 fun holds => same.not_lt (relations.lt.1 holds)
    have above := Bool.eq_false_iff.2 fun holds => same.not_gt (relations.gt.1 holds)
    simp [relations.eq.2 same, below, above]
  · have below := Bool.eq_false_iff.2 fun holds => more.not_gt (relations.lt.1 holds)
    have equal := Bool.eq_false_iff.2 fun holds => more.ne' (relations.eq.1 holds)
    simp [relations.gt.2 more, below, equal]

/-- A whole number is among others when one of them goes to the same double. -/
theorem isAmong_ints (number : Int64) (items : List Int64) :
    isAmong (some (.int number)) (.list (items.map .int)) = true ↔
      ∃ item ∈ items, rounded item.toInt = rounded number.toInt := by
  simp only [isAmong, Value.list?, List.any_map, List.any_eq_true, Function.comp_apply,
    looseEq_ints, decide_eq_true_iff]

/-- Rounding that does not make two numbers equal keeps their order. -/
theorem rounded_lt_iff (apart : rounded left.toInt = rounded right.toInt → left = right) :
    rounded left.toInt < rounded right.toInt ↔ left.toInt < right.toInt := by
  constructor
  · intro less
    by_contra more
    exact Int.not_lt.2 (rounded_mono (Int.not_lt.1 more)) less
  · intro less
    refine lt_of_le_of_ne (rounded_mono less.le) fun same => ?_
    exact less.ne (congrArg Int64.toInt (apart same))

/-- The comparison is exact if and only if the numbers do not go to the same double by rounding. -/
theorem comparesAs_iff (left right : Int64) :
    ComparesAs (.int left) (.int right) left.toInt right.toInt ↔
      (rounded left.toInt = rounded right.toInt → left = right) := by
  have relations := comparesAs_rounded left right
  constructor
  · intro exact same
    exact Int64.toInt_inj.1 (exact.eq.1 (relations.eq.2 same))
  · intro apart
    have less := rounded_lt_iff apart
    have more := rounded_lt_iff fun same => (apart same.symm).symm
    have same : rounded left.toInt = rounded right.toInt ↔ left.toInt = right.toInt := by omega
    exact
      { eq := relations.eq.trans same
        ne := relations.ne.trans (not_congr same)
        lt := relations.lt.trans less
        lte := relations.lte.trans (by omega)
        gt := relations.gt.trans more
        gte := relations.gte.trans (by omega) }

/-- Whole numbers are compared as the doubles that they are rounded to, half to even, and so are a
number and those of a list; just one of the three relations is there. The comparison is exact unless
the two are rounded to the same double, and so for numbers up to 53 digits. -/
theorem compare_ints (left right : Int64) (items : List Int64) :
    (∀ number, Rounds number (rounded number)) ∧
      ComparesAs (.int left) (.int right) (rounded left.toInt) (rounded right.toInt) ∧
      (ComparisonOperator.isIn.compare (some (.int left)) (.list (items.map .int)) = true ↔
        ∃ item ∈ items, rounded item.toInt = rounded left.toInt) ∧
      ([.lt, .eq, .gt].countP fun operator : ComparisonOperator =>
        operator.compare (some (.int left)) (.int right)) = 1 ∧
      (ComparesAs (.int left) (.int right) left.toInt right.toInt ↔
        (rounded left.toInt = rounded right.toInt → left = right)) ∧
      (|left.toInt| ≤ 2 ^ 53 → |right.toInt| ≤ 2 ^ 53 →
        ComparesAs (.int left) (.int right) left.toInt right.toInt) := by
  refine ⟨rounds_rounded, comparesAs_rounded left right, isAmong_ints left items,
    countP_relations left right, comparesAs_iff left right, ?_⟩
  intro short brief
  rw [comparesAs_iff, rounded_eq_self short, rounded_eq_self brief]
  exact Int64.toInt_inj.1

/-- The least number with more digits is equal to the one before it, as far as the operators go. -/
theorem compare_ints_adjacent :
    ComparisonOperator.eq.compare (some (.int 9007199254740992)) (.int 9007199254740993) = true ∧
      ComparisonOperator.isIn.compare (some (.int 9007199254740992))
        (.list [.int 9007199254740993]) = true ∧
      ¬ ComparesAs (.int 9007199254740992) (.int 9007199254740993)
        9007199254740992 9007199254740993 := by
  have same : rounded (9007199254740992 : Int64).toInt =
      rounded (9007199254740993 : Int64).toInt := by decide +kernel
  obtain ⟨-, relations, listed, -, exact, -⟩ :=
    compare_ints 9007199254740992 9007199254740993 [9007199254740993]
  refine ⟨relations.eq.2 same, listed.2 ⟨_, List.mem_singleton_self _, same.symm⟩, ?_⟩
  intro alike
  have equal : (9007199254740992 : Int64) = 9007199254740993 := exact.1 alike same
  revert equal
  decide

end VisualNovel.ComparisonOperator
