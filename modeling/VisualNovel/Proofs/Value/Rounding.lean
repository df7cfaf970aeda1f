import VisualNovel.Proofs.Value.Weights

/-!
# Whole numbers rounded to doubles

A whole number is stored as the nearest double. Up to 53 digits in base two it is one itself;
beyond, doubles lie apart by a power of two, and a number in the middle between two goes to the one
with an even mantissa. Doubles of whole numbers are ordered as the rounded numbers are.
-/

namespace VisualNovel

namespace Decimal

variable {numerator denominator : Nat}

/-! ## Rounded quotients -/

/-- A rounded quotient is the quotient or the next number: the quotient when the remainder is below
the middle, or in the middle and the quotient even. -/
theorem roundedQuotient_cases (numerator denominator : Nat) :
    (roundedQuotient numerator denominator = numerator / denominator ∧
        (2 * (numerator % denominator) < denominator ∨
          2 * (numerator % denominator) = denominator ∧ numerator / denominator % 2 = 0)) ∨
      roundedQuotient numerator denominator = numerator / denominator + 1 ∧
        (denominator < 2 * (numerator % denominator) ∨
          2 * (numerator % denominator) = denominator ∧ numerator / denominator % 2 = 1) := by
  simp only [roundedQuotient, Bool.or_eq_true, Bool.and_eq_true, decide_eq_true_eq, beq_iff_eq]
  split
  · rename_i up
    exact .inr ⟨rfl, up⟩
  · rename_i down
    refine .inl ⟨rfl, ?_⟩
    omega

theorem roundedQuotient_one (numerator : Nat) : roundedQuotient numerator 1 = numerator := by
  have cases := roundedQuotient_cases numerator 1
  rw [Nat.div_one, Nat.mod_one] at cases
  omega

/-- Another multiple of the denominator is no nearer than the rounded one, and as near as that only
when it is rounded to an even number. -/
theorem roundedQuotient_nearest (positive : 0 < denominator) {multiple : Int}
    (other : multiple ≠ roundedQuotient numerator denominator) :
    |(numerator : Int) - roundedQuotient numerator denominator * denominator| <
        |(numerator : Int) - multiple * denominator| ∨
      |(numerator : Int) - roundedQuotient numerator denominator * denominator| =
          |(numerator : Int) - multiple * denominator| ∧
        roundedQuotient numerator denominator % 2 = 0 := by
  have whole : (numerator : Int) =
      (numerator / denominator : Nat) * denominator + (numerator % denominator : Nat) := by
    exact_mod_cast (Nat.div_add_mod' numerator denominator).symm
  have rest : numerator % denominator < denominator := Nat.mod_lt _ positive
  have next : ((numerator / denominator + 1 : Nat) : Int) * denominator =
      (numerator / denominator : Nat) * denominator + denominator := by
    push_cast
    ring
  -- The multiples below and above the two between which the numerator is.
  have sides : multiple * denominator + denominator ≤ (numerator / denominator : Nat) * denominator ∨
      multiple = (numerator / denominator : Nat) ∨
      multiple = (numerator / denominator + 1 : Nat) ∨
      (numerator / denominator : Nat) * denominator + 2 * denominator ≤ multiple * denominator := by
    rcases lt_or_ge multiple (numerator / denominator : Nat) with less | more
    · refine .inl ?_
      have scaled := Int.mul_le_mul_of_nonneg_right (Int.add_one_le_of_lt less)
        (Int.natCast_nonneg denominator)
      rw [add_one_mul] at scaled
      exact scaled
    · rcases lt_or_ge multiple ((numerator / denominator : Nat) + 2) with near | far
      · omega
      · refine .inr (.inr (.inr ?_))
        have scaled := Int.mul_le_mul_of_nonneg_right far (Int.natCast_nonneg denominator)
        rw [add_mul] at scaled
        exact scaled
  rw [Int.abs_eq_natAbs, Int.abs_eq_natAbs]
  rcases roundedQuotient_cases numerator denominator with ⟨same, rounding⟩ | ⟨same, rounding⟩
  · rw [same] at other ⊢
    rcases sides with below | rfl | rfl | above <;> omega
  · rw [same] at other ⊢
    rcases sides with below | rfl | rfl | above <;> omega

end Decimal

namespace Double

/-! ## Bits of whole numbers -/

/-- The distance between the doubles around a natural number. -/
def gap (number : Nat) : Nat :=
  2 ^ (number.log2 - 52)

/-- The 53 digits that are stored of a natural number. -/
def significand (number : Nat) : Nat :=
  Decimal.roundedQuotient (number * 2 ^ (52 - number.log2)) (gap number)

/-- The natural number that is stored for a natural number. -/
def roundedNat (number : Nat) : Nat :=
  Decimal.roundedQuotient number (gap number) * gap number

variable {number other : Nat}

theorem gap_pos (number : Nat) : 0 < gap number :=
  Nat.two_pow_pos _

/-- A power of two scales a natural number to a given count of digits. -/
theorem scaled_between (positive : 0 < number) (digits : Nat) :
    2 ^ digits ≤ number * 2 ^ (digits - number.log2) / 2 ^ (number.log2 - digits) ∧
      number * 2 ^ (digits - number.log2) / 2 ^ (number.log2 - digits) < 2 ^ (digits + 1) := by
  have exchanged : 2 ^ digits * 2 ^ (number.log2 - digits) =
      2 ^ number.log2 * 2 ^ (digits - number.log2) := by
    rw [← Nat.pow_add, ← Nat.pow_add]
    congr 1
    omega
  have least : 2 ^ number.log2 ≤ number := Nat.log2_self_le positive.ne'
  have most : number < 2 ^ (number.log2 + 1) := Nat.lt_log2_self
  constructor
  · rw [Nat.le_div_iff_mul_le (Nat.two_pow_pos _), exchanged]
    exact Nat.mul_le_mul_right _ least
  · rw [Nat.div_lt_iff_lt_mul (Nat.two_pow_pos _), Nat.pow_succ, Nat.mul_right_comm, exchanged,
      Nat.mul_right_comm, ← Nat.pow_succ]
    exact Nat.mul_lt_mul_of_pos_right most (Nat.two_pow_pos _)

theorem significand_between (positive : 0 < number) :
    2 ^ 52 ≤ significand number ∧ significand number ≤ 2 ^ 53 := by
  have quotient := scaled_between positive 52
  have cases := Decimal.roundedQuotient_cases (number * 2 ^ (52 - number.log2)) (gap number)
  simp only [significand, gap] at cases ⊢
  omega

theorem two_pow_log2 (long : 52 ≤ number.log2) : 2 ^ number.log2 = 2 ^ 52 * gap number := by
  rw [gap, ← Nat.pow_add, Nat.add_sub_cancel' long]

/-- The digits are those of the number that is stored. -/
theorem significand_mul (number : Nat) :
    significand number * 2 ^ number.log2 = roundedNat number * 2 ^ 52 := by
  rcases Nat.le_total number.log2 52 with short | long
  · have unit : gap number = 1 := by
      rw [gap, Nat.sub_eq_zero_of_le short, Nat.pow_zero]
    have whole : 2 ^ (52 - number.log2) * 2 ^ number.log2 = 2 ^ 52 := by
      rw [← Nat.pow_add, Nat.sub_add_cancel short]
    simp only [significand, roundedNat]
    rw [unit, Decimal.roundedQuotient_one, Decimal.roundedQuotient_one, Nat.mul_assoc, whole,
      Nat.mul_one]
  · simp only [significand, roundedNat]
    rw [two_pow_log2 long, Nat.sub_eq_zero_of_le long, Nat.pow_zero, Nat.mul_one, Nat.mul_assoc,
      Nat.mul_comm (2 ^ 52)]

theorem roundedNat_zero : roundedNat 0 = 0 :=
  rfl

theorem roundedNat_pos (positive : 0 < number) : 0 < roundedNat number := by
  have digits : 0 < significand number * 2 ^ number.log2 :=
    Nat.mul_pos (Nat.lt_of_lt_of_le (Nat.two_pow_pos 52) (significand_between positive).1)
      (Nat.two_pow_pos _)
  rw [significand_mul] at digits
  exact Nat.pos_of_mul_pos_right digits

/-- Scaling by a power of two, for a power that may be below one. -/
theorem scaled_sub (number denominator length digits : Nat) :
    Decimal.scaled number denominator ((length : Int) - digits) =
      (number * 2 ^ (digits - length), denominator * 2 ^ (length - digits)) := by
  simp only [Decimal.scaled]
  split
  · rename_i short
    have positive : (-((length : Int) - digits)).toNat = digits - length := by omega
    have none : length - digits = 0 := by omega
    rw [positive, none, Nat.pow_zero, Nat.mul_one]
    rfl
  · rename_i long
    have positive : ((length : Int) - digits).toNat = length - digits := by omega
    have none : digits - length = 0 := by omega
    rw [positive, none, Nat.pow_zero, Nat.mul_one]
    rfl

/-- The bits of a natural number: those of the exponent, then the digits. -/
theorem nearestBits_eq (positive : 0 < number) (within : number < 2 ^ 64) :
    Decimal.nearestBits number 1 = (number.log2 + 1022) * 2 ^ 52 + significand number := by
  have short : number.log2 < 64 := (Nat.log2_lt positive.ne').2 within
  have digits := significand_between positive
  have enough : (Decimal.scaled number 1 ((number.log2 : Int) - (53 : Nat))).1 /
      (Decimal.scaled number 1 ((number.log2 : Int) - (53 : Nat))).2 ≥ Nat.pow 2 53 := by
    rw [scaled_sub, Nat.one_mul]
    exact (scaled_between positive 53).1
  have least : max (((number.log2 : Int) - (Nat.log2 1 : Nat)) - 53) (-1074) =
      (number.log2 : Int) - (53 : Nat) := by
    have unit : Nat.log2 1 = 0 := rfl
    rw [unit]
    omega
  have exponent : (number.log2 : Int) - (53 : Nat) + 1 = (number.log2 : Int) - (52 : Nat) := by
    omega
  have biased : ((number.log2 : Int) - (52 : Nat) + 1074).toNat = number.log2 + 1022 := by omega
  simp only [Decimal.nearestBits]
  rw [if_neg positive.ne', least, if_pos enough, exponent, scaled_sub, biased, Nat.one_mul]
  change min ((number.log2 + 1022) * 2 ^ 52 + significand number) (2047 * 2 ^ 52) = _
  omega

theorem nearestBits_pos (positive : 0 < number) (within : number < 2 ^ 64) :
    0 < Decimal.nearestBits number 1 := by
  have digits := significand_between positive
  rw [nearestBits_eq positive within]
  omega

/-- Whole numbers of 64 bits are far below infinity. -/
theorem nearestBits_lt_infinityBits (within : number < 2 ^ 64) :
    Decimal.nearestBits number 1 < Decimal.infinityBits := by
  change _ < 2047 * 2 ^ 52
  rcases Nat.eq_zero_or_pos number with rfl | positive
  · decide
  · have short : number.log2 < 64 := (Nat.log2_lt positive.ne').2 within
    have digits := significand_between positive
    rw [nearestBits_eq positive within]
    omega

/-- Places of digits that are full are ordered as what the digits stand for. -/
theorem place_lt_iff {digits others : Nat} (full : 2 ^ 52 ≤ digits) (within : digits ≤ 2 ^ 53)
    (filled : 2 ^ 52 ≤ others) (below : others ≤ 2 ^ 53) (place another : Nat) :
    place * 2 ^ 52 + digits < another * 2 ^ 52 + others ↔
      digits * 2 ^ place < others * 2 ^ another := by
  rcases Nat.lt_trichotomy place another with less | rfl | more
  · obtain ⟨further, rfl⟩ := Nat.exists_eq_add_of_lt less
    have shifted : 2 ^ (place + further + 1) = 2 * 2 ^ further * 2 ^ place := by ring
    have scale : 1 ≤ 2 ^ further := Nat.one_le_two_pow
    rw [shifted, ← Nat.mul_assoc, Nat.mul_lt_mul_right (Nat.two_pow_pos place)]
    rcases Nat.eq_zero_or_pos further with rfl | apart
    · omega
    · have double : 2 * 2 ≤ 2 * 2 ^ further := Nat.mul_le_mul_left 2 (Nat.le_self_pow apart.ne' 2)
      have scaled : others * (2 * 2) ≤ others * (2 * 2 ^ further) := Nat.mul_le_mul_left _ double
      omega
  · rw [Nat.mul_lt_mul_right (Nat.two_pow_pos place)]
    omega
  · obtain ⟨further, rfl⟩ := Nat.exists_eq_add_of_lt more
    have shifted : 2 ^ (another + further + 1) = 2 * 2 ^ further * 2 ^ another := by ring
    have scaled : digits * 2 ≤ digits * (2 * 2 ^ further) :=
      Nat.mul_le_mul_left _ (Nat.le_mul_of_pos_right 2 (Nat.two_pow_pos further))
    rw [shifted, ← Nat.mul_assoc, Nat.mul_lt_mul_right (Nat.two_pow_pos another)]
    omega

/-- Bits of natural numbers are ordered as the numbers that are stored. -/
theorem nearestBits_lt_iff (within : number < 2 ^ 64) (below : other < 2 ^ 64) :
    Decimal.nearestBits number 1 < Decimal.nearestBits other 1 ↔
      roundedNat number < roundedNat other := by
  have unused : Decimal.nearestBits 0 1 = 0 := rfl
  rcases Nat.eq_zero_or_pos number with rfl | positive
  · rw [unused, roundedNat_zero]
    rcases Nat.eq_zero_or_pos other with rfl | occupied
    · rw [unused, roundedNat_zero]
    · exact iff_of_true (nearestBits_pos occupied below) (roundedNat_pos occupied)
  · rcases Nat.eq_zero_or_pos other with rfl | occupied
    · rw [unused, roundedNat_zero]
      exact iff_of_false (Nat.not_lt_zero _) (Nat.not_lt_zero _)
    · have digits := significand_between positive
      have others := significand_between occupied
      have places := place_lt_iff digits.1 digits.2 others.1 others.2 number.log2 other.log2
      rw [significand_mul, significand_mul, Nat.mul_lt_mul_right (Nat.two_pow_pos 52)] at places
      rw [nearestBits_eq positive within, nearestBits_eq occupied below, ← places, Nat.add_mul,
        Nat.add_mul, Nat.add_right_comm, Nat.add_right_comm (other.log2 * 2 ^ 52),
        Nat.add_lt_add_iff_right]

/-- The double nearest to a natural number is made of bits below the sign. -/
theorem nearest_whole (coefficient : Nat) :
    Decimal.nearest coefficient 0 =
      Float.ofBits (UInt64.ofNat (Decimal.nearestBits coefficient 1)) := by
  simp only [Decimal.nearest]
  split
  · rename_i zero
    rw [zero]
    rfl
  · rw [if_neg (by decide), if_neg (by omega), if_neg (by decide)]
    have same : coefficient * Nat.pow 10 (0 : Int).toNat = coefficient := Nat.mul_one coefficient
    rw [same]

/-! ## Both sides of zero -/

/-- A function of natural numbers, continued to the numbers below zero. -/
def signed (size : Nat → Nat) (number : Int) : Int :=
  number.sign * size number.natAbs

theorem signed_natCast {size : Nat → Nat} (zero : size 0 = 0) (number : Nat) :
    signed size number = size number := by
  simp only [signed, Int.natAbs_natCast]
  rcases Nat.eq_zero_or_pos number with rfl | positive
  · rw [zero]
    rfl
  · rw [Int.sign_natCast_of_ne_zero positive.ne', Int.one_mul]

theorem signed_neg (size : Nat → Nat) (number : Int) :
    signed size (-number) = -signed size number := by
  rw [signed, Int.sign_neg, Int.natAbs_neg, Int.neg_mul, signed]

/-- Functions that order natural numbers alike order whole numbers alike. -/
theorem signed_lt_iff {size another : Nat → Nat} {bound : Nat} (zero : size 0 = 0)
    (also : another 0 = 0)
    (alike : ∀ {number other : Nat}, number < bound → other < bound →
      (size number < size other ↔ another number < another other))
    {number other : Int} (within : number.natAbs < bound) (below : other.natAbs < bound) :
    signed size number < signed size other ↔ signed another number < signed another other := by
  have positive : 0 < bound := Nat.zero_lt_of_lt within
  have forth := alike within below
  have back := alike below within
  have first := alike positive within
  have second := alike positive below
  rw [zero, also] at first second
  obtain ⟨left, rfl | rfl⟩ := number.eq_nat_or_neg <;>
  obtain ⟨right, rfl | rfl⟩ := other.eq_nat_or_neg <;>
  simp only [Int.natAbs_natCast, Int.natAbs_neg] at forth back first second <;>
  simp only [signed_neg, signed_natCast zero, signed_natCast also] <;>
  omega

theorem natAbs_toInt_lt (value : Int64) : value.toInt.natAbs < 2 ^ 64 := by
  have least := value.le_toInt
  have most := value.toInt_lt
  omega

/-- The whole number that is stored for a whole number. -/
def rounded (number : Int) : Int :=
  signed roundedNat number

/-- The bits below the sign weigh what they are, and those of numbers below zero the opposite. -/
theorem hasWeight_intFloat (value : Int64) :
    HasWeight (Value.intFloat value)
      (signed (fun number => Decimal.nearestBits number 1) value.toInt) := by
  have weighs : HasWeight (Decimal.nearest value.toInt.natAbs 0)
      (Decimal.nearestBits value.toInt.natAbs 1) := by
    rw [nearest_whole]
    exact hasWeight_ofBits (nearestBits_lt_infinityBits (natAbs_toInt_lt value))
  simp only [Value.intFloat]
  split
  · rename_i negative
    rw [signed, Int.sign_eq_neg_one_of_neg negative, Int.neg_one_mul]
    exact weighs.neg
  · rename_i natural
    rcases Int.lt_or_eq_of_le (Int.not_lt.1 natural) with positive | zero
    · rw [signed, Int.sign_eq_one_of_pos positive, Int.one_mul]
      exact weighs
    · rw [← zero] at weighs ⊢
      exact weighs

theorem intFloat_lt_iff (left right : Int64) :
    Value.intFloat left < Value.intFloat right ↔ rounded left.toInt < rounded right.toInt := by
  rw [HasWeight.lt_iff (hasWeight_intFloat left) (hasWeight_intFloat right)]
  exact signed_lt_iff rfl rfl nearestBits_lt_iff (natAbs_toInt_lt left) (natAbs_toInt_lt right)

theorem intFloat_beq_iff (left right : Int64) :
    (Value.intFloat left == Value.intFloat right) = true ↔
      rounded left.toInt = rounded right.toInt := by
  have less := intFloat_lt_iff left right
  have more := intFloat_lt_iff right left
  rw [HasWeight.lt_iff (hasWeight_intFloat _) (hasWeight_intFloat _)] at less more
  rw [HasWeight.beq_iff (hasWeight_intFloat left) (hasWeight_intFloat right)]
  omega

theorem isNaN_intFloat (value : Int64) : (Value.intFloat value).isNaN = false :=
  HasWeight.isNaN_eq_false (hasWeight_intFloat value)

/-- The double nearest to a whole number is on the side of this number. -/
theorem intFloat_le_zero_iff (value : Int64) : Value.intFloat value ≤ 0.0 ↔ value ≤ 0 := by
  have within := natAbs_toInt_lt value
  rw [HasWeight.le_iff (hasWeight_intFloat value) hasWeight_zero, Int64.le_iff_toInt_le]
  change _ ↔ value.toInt ≤ 0
  obtain ⟨natural, same | same⟩ := value.toInt.eq_nat_or_neg
  · rw [same, Int.natAbs_natCast] at within
    rw [same, signed_natCast rfl]
    rcases Nat.eq_zero_or_pos natural with rfl | positive
    · rfl
    · have bits := nearestBits_pos positive within
      omega
  · rw [same, signed_neg, signed_natCast rfl]
    omega

/-! ## Rounding -/

/-- Numbers with so many digits in base two: whole numbers of this length, scaled by a power of two.
Doubles have 53 digits, and those with an even mantissa have 52. -/
def HasDigits (digits : Nat) (number : ℚ) : Prop :=
  ∃ significand exponent : Int, |significand| ≤ 2 ^ digits ∧ number = significand * 2 ^ exponent

/-- The number that is stored for a whole number: every other double is farther from it, or as near
when the stored one is even. -/
structure Rounds (number stored : Int) : Prop where
  digits : HasDigits 53 stored
  nearest {other : ℚ} : HasDigits 53 other → other ≠ stored →
    |(number : ℚ) - stored| < |(number : ℚ) - other| ∨
      |(number : ℚ) - stored| = |(number : ℚ) - other| ∧ HasDigits 52 stored

theorem HasDigits.neg {digits : Nat} {number : ℚ} (has : HasDigits digits number) :
    HasDigits digits (-number) := by
  obtain ⟨significand, exponent, within, rfl⟩ := has
  refine ⟨-significand, exponent, by rw [abs_neg]; exact within, ?_⟩
  push_cast
  ring

theorem hasDigits_intCast {digits : Nat} {number : Int} (within : |number| ≤ 2 ^ digits) :
    HasDigits digits number :=
  ⟨number, 0, within, by rw [zpow_zero, mul_one]⟩

theorem hasDigits_scaled {digits significand : Nat} (within : significand ≤ 2 ^ digits)
    (exponent : Nat) : HasDigits digits ((significand * 2 ^ exponent : Nat) : Int) := by
  refine ⟨significand, exponent, ?_, ?_⟩
  · rw [Nat.abs_cast]
    exact_mod_cast within
  · rw [zpow_natCast]
    push_cast
    rfl

namespace Rounds

variable {number another stored kept : Int}

/-- Rounding is the same on both sides of zero. -/
theorem neg (rounds : Rounds number stored) : Rounds (-number) (-stored) := by
  have turned {other : ℚ} : |((-number : Int) : ℚ) - other| = |(number : ℚ) - -other| := by
    rw [← abs_neg]
    push_cast
    ring_nf
  refine ⟨by exact_mod_cast rounds.digits.neg, fun {other} digits differs => ?_⟩
  rw [turned, turned, Int.cast_neg, neg_neg]
  rcases rounds.nearest digits.neg (fun same => differs (by rw [Int.cast_neg, ← same, neg_neg]))
    with farther | ⟨near, even⟩
  · exact .inl farther
  · exact .inr ⟨near, even.neg⟩

/-- No double is nearer. -/
theorem le (rounds : Rounds number stored) {other : ℚ} (digits : HasDigits 53 other) :
    |(number : ℚ) - stored| ≤ |(number : ℚ) - other| := by
  by_cases same : other = stored
  · rw [same]
  · rcases rounds.nearest digits same with farther | ⟨near, -⟩
    · exact farther.le
    · exact near.le

/-- A double is stored as it is. -/
theorem eq_self (rounds : Rounds number stored) (digits : HasDigits 53 number) :
    stored = number := by
  have none := rounds.le digits
  rw [sub_self, abs_zero] at none
  have same := sub_eq_zero.1 (abs_eq_zero.1 (le_antisymm none (abs_nonneg _)))
  exact_mod_cast same.symm

/-- Rounding keeps the order. -/
theorem mono (rounds : Rounds number stored) (also : Rounds another kept)
    (less : number < another) : stored ≤ kept := by
  have near := rounds.le also.digits
  have close := also.le rounds.digits
  have apart : (number : ℚ) < another := by exact_mod_cast less
  have ordered : (stored : ℚ) ≤ kept := by
    rcases abs_cases ((number : ℚ) - stored) with first | first <;>
    rcases abs_cases ((number : ℚ) - kept) with second | second <;>
    rcases abs_cases ((another : ℚ) - stored) with third | third <;>
    rcases abs_cases ((another : ℚ) - kept) with fourth | fourth <;>
    linarith
  exact_mod_cast ordered

end Rounds

/-! ## Whole numbers are rounded -/

/-- A double is a multiple of the gap around a longer natural number, or below every number of the
same length. -/
theorem HasDigits.multiple_or_lt {other : ℚ} (digits : HasDigits 53 other)
    (long : 53 ≤ number.log2) :
    (∃ multiple : Int, other = multiple * (gap number : Nat)) ∨ other < 2 ^ number.log2 := by
  obtain ⟨significand, exponent, within, rfl⟩ := digits
  have scale : (gap number : ℚ) = 2 ^ ((number.log2 : Int) - 52) := by
    rw [gap, Nat.cast_pow, Nat.cast_ofNat, ← zpow_natCast]
    congr 1
    omega
  rcases le_or_gt ((number.log2 : Int) - 52) exponent with wide | narrow
  · refine .inl ⟨significand * 2 ^ (exponent - (number.log2 - 52)).toNat, ?_⟩
    have whole : (2 : ℚ) ^ (exponent - (number.log2 - 52)).toNat =
        2 ^ (exponent - (number.log2 - 52)) := by
      rw [← zpow_natCast, Int.toNat_of_nonneg (by omega)]
    push_cast
    rw [whole, scale, mul_assoc, ← zpow_add₀ two_ne_zero]
    congr 2
    omega
  · have most : (significand : ℚ) ≤ 2 ^ 53 := by
      exact_mod_cast (le_abs_self significand).trans within
    have power : (2 : ℚ) ^ exponent ≤ 2 ^ ((number.log2 : Int) - 53) :=
      zpow_le_zpow_right₀ one_le_two (by omega)
    have length : (2 : ℚ) ^ number.log2 = 2 ^ 53 * 2 ^ ((number.log2 : Int) - 53) := by
      rw [← zpow_natCast, ← zpow_natCast, ← zpow_add₀ two_ne_zero]
      congr 1
      push_cast
      omega
    have least : (significand : ℚ) * 2 ^ exponent ≤ 2 ^ number.log2 := by
      rw [length]
      exact mul_le_mul most power (zpow_nonneg zero_le_two _) (by positivity)
    rcases least.lt_or_eq with less | same
    · exact .inr less
    · refine .inl ⟨2 ^ 52, ?_⟩
      rw [same]
      exact_mod_cast two_pow_log2 (by omega)

theorem roundedNat_short (short : number.log2 ≤ 52) : roundedNat number = number := by
  rw [roundedNat, gap, Nat.sub_eq_zero_of_le short, Nat.pow_zero, Decimal.roundedQuotient_one,
    Nat.mul_one]

/-- A short natural number is a double. -/
theorem rounds_short (short : number.log2 ≤ 52) : Rounds number (roundedNat number) := by
  have most : number < 2 ^ 53 :=
    Nat.lt_of_lt_of_le Nat.lt_log2_self (Nat.pow_le_pow_right (by decide) (by omega))
  rw [roundedNat_short short]
  refine ⟨hasDigits_intCast (by rw [Int.abs_eq_natAbs]; omega), fun {other} _ differs => .inl ?_⟩
  rw [sub_self, abs_zero, abs_pos, sub_ne_zero]
  exact differs.symm

/-- Another multiple of the gap is no nearer than the stored number. -/
theorem roundedNat_nearest {multiple : Int}
    (apart : multiple ≠ Decimal.roundedQuotient number (gap number)) :
    |(number : ℚ) - roundedNat number| < |(number : ℚ) - multiple * (gap number : Nat)| ∨
      |(number : ℚ) - roundedNat number| = |(number : ℚ) - multiple * (gap number : Nat)| ∧
        Decimal.roundedQuotient number (gap number) % 2 = 0 := by
  exact_mod_cast Decimal.roundedQuotient_nearest (gap_pos number) apart

/-- The power of two of the same length is no nearer either, since it is a multiple. -/
theorem roundedNat_near (long : 52 ≤ number.log2) :
    |(number : ℚ) - roundedNat number| ≤ |(number : ℚ) - 2 ^ number.log2| := by
  have length : (2 : ℚ) ^ number.log2 = ((2 ^ 52 : Nat) : Int) * (gap number : Nat) := by
    exact_mod_cast two_pow_log2 long
  rw [length]
  by_cases same : ((2 ^ 52 : Nat) : Int) = Decimal.roundedQuotient number (gap number)
  · rw [same, roundedNat]
    push_cast
    exact le_rfl
  · rcases roundedNat_nearest same with farther | ⟨near, -⟩
    · exact farther.le
    · exact near.le

/-- An even multiple of the gap has one digit less. -/
theorem hasDigits_even (long : 52 ≤ number.log2)
    (most : Decimal.roundedQuotient number (gap number) ≤ 2 ^ 53)
    (even : Decimal.roundedQuotient number (gap number) % 2 = 0) :
    HasDigits 52 (roundedNat number : Int) := by
  obtain ⟨half, twice⟩ := Nat.dvd_of_mod_eq_zero even
  rw [twice] at most
  have wider : 2 * gap number = 2 ^ (number.log2 - 51) := by
    rw [gap, ← Nat.pow_succ']
    congr 1
    omega
  have scaled : roundedNat number = half * 2 ^ (number.log2 - 51) := by
    rw [roundedNat, twice, ← wider]
    ring
  rw [scaled]
  exact hasDigits_scaled (by omega) _

/-- A longer natural number goes to a multiple of the gap. -/
theorem rounds_long (long : 53 ≤ number.log2) : Rounds number (roundedNat number) := by
  have enough : 52 ≤ number.log2 := by omega
  have positive : 0 < number := by
    rcases Nat.eq_zero_or_pos number with rfl | positive
    · contradiction
    · exact positive
  have most : Decimal.roundedQuotient number (gap number) ≤ 2 ^ 53 := by
    have digits := (significand_between positive).2
    rw [significand, Nat.sub_eq_zero_of_le enough, Nat.pow_zero, Nat.mul_one] at digits
    exact digits
  refine ⟨hasDigits_scaled most _, fun {other} digits differs => ?_⟩
  rcases digits.multiple_or_lt long with ⟨multiple, rfl⟩ | less
  · have apart : multiple ≠ Decimal.roundedQuotient number (gap number) := by
      rintro rfl
      apply differs
      rw [roundedNat]
      push_cast
      rfl
    rcases roundedNat_nearest apart with farther | ⟨near, even⟩
    · exact .inl farther
    · exact .inr ⟨near, hasDigits_even enough most even⟩
  · -- The power of two of the same length lies between.
    have least : (2 ^ number.log2 : ℚ) ≤ number := by
      exact_mod_cast Nat.log2_self_le positive.ne'
    have power := roundedNat_near enough
    rw [abs_of_nonneg (sub_nonneg.2 least)] at power
    have above := le_abs_self ((number : ℚ) - other)
    refine .inl ?_
    push_cast
    linarith

/-- The double nearest to a natural number is stored. -/
theorem rounds_roundedNat (number : Nat) : Rounds number (roundedNat number) := by
  rcases Nat.lt_or_ge number.log2 53 with short | long
  · exact rounds_short (by omega)
  · exact rounds_long long

theorem rounds_rounded (number : Int) : Rounds number (rounded number) := by
  obtain ⟨natural, rfl | rfl⟩ := number.eq_nat_or_neg
  · rw [rounded, signed_natCast roundedNat_zero]
    exact rounds_roundedNat natural
  · rw [rounded, signed_neg, signed_natCast roundedNat_zero]
    exact (rounds_roundedNat natural).neg

theorem rounded_mono {number other : Int} (less : number ≤ other) :
    rounded number ≤ rounded other := by
  rcases less.lt_or_eq with less | rfl
  · exact (rounds_rounded number).mono (rounds_rounded other) less
  · exact le_rfl

/-- Numbers up to 53 digits are doubles. -/
theorem rounded_eq_self {number : Int} (within : |number| ≤ 2 ^ 53) : rounded number = number :=
  (rounds_rounded number).eq_self (hasDigits_intCast within)

end Double

end VisualNovel
