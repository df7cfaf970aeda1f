import Mathlib
import VisualNovel.Value

/-!
# Weights of doubles

A double is made of a sign, an exponent and a mantissa. Taking it apart and putting it together
again changes nothing, and negation turns the sign alone. Read as a number and with its sign, what
stands behind the sign bit is the weight of the double, and doubles are ordered as their weights
are.
-/

namespace VisualNovel.Double

open Float.Model UnpackedFloat

/-! ## Taking apart and putting together -/

section Parts

variable {bits : BitVec Format.binary64.numBits}

theorem unpack_undefined (undefined : isNaNBits bits = true) :
    UnpackedFloat.unpack .binary64 bits = .notANumber := by
  obtain ⟨greatest, payload⟩ := of_decide_eq_true undefined
  simp only [UnpackedFloat.unpack]
  rw [if_pos greatest, if_neg payload]

/-- What was taken apart is put together to bits that are taken apart like it. -/
theorem unpack_pack_unpack (bits : BitVec Format.binary64.numBits) :
    UnpackedFloat.unpack .binary64
        (UnpackedFloat.pack .binary64 (UnpackedFloat.unpack .binary64 bits)) =
      UnpackedFloat.unpack .binary64 bits := by
  rw [UnpackedFloat.pack_unpack bits]
  split
  · rename_i undefined
    rw [unpack_packedNaN, unpack_undefined undefined]
  · rfl

/-- Negation turns the sign and keeps the other parts. -/
theorem neg_unpack (number : ¬ isNaNBits bits = true) :
    (UnpackedFloat.unpack .binary64 bits).neg =
      UnpackedFloat.unpack .binary64 (packComponents .binary64
        (-Sign.ofBitVec (unpackSign bits)) (unpackExponent bits) (unpackMantissa bits)) := by
  simp only [UnpackedFloat.unpack, unpackMantissa_packComponents, unpackExponent_packComponents,
    unpackSign_packComponents, Sign.ofBitVec_toBitVec]
  split
  · rename_i greatest
    have none : unpackMantissa bits = 0#52 := by
      by_contra payload
      exact number (decide_eq_true ⟨greatest, payload⟩)
    rw [if_pos none, if_pos none]
    rfl
  · split
    · split <;> rfl
    · rfl

theorem unpack_pack_neg (bits : BitVec Format.binary64.numBits) :
    UnpackedFloat.unpack .binary64
        (UnpackedFloat.pack .binary64 (UnpackedFloat.unpack .binary64 bits).neg) =
      (UnpackedFloat.unpack .binary64 bits).neg := by
  by_cases undefined : isNaNBits bits = true
  · rw [unpack_undefined undefined]
    rfl
  · rw [neg_unpack undefined, unpack_pack_unpack]

theorem toNat_unpackSign (bits : BitVec Format.binary64.numBits) :
    (unpackSign bits).toNat = bits.toNat / 2 ^ 63 % 2 := by
  rw [unpackSign_def, BitVec.extractLsb'_toNat, Nat.shiftRight_eq_div_pow]
  rfl

theorem toNat_unpackExponent (bits : BitVec Format.binary64.numBits) :
    (unpackExponent bits).toNat = bits.toNat / 2 ^ 52 % 2 ^ 11 := by
  rw [unpackExponent_def, BitVec.extractLsb'_toNat, Nat.shiftRight_eq_div_pow]

theorem toNat_unpackMantissa (bits : BitVec Format.binary64.numBits) :
    (unpackMantissa bits).toNat = bits.toNat % 2 ^ 52 := by
  rw [unpackMantissa_def, BitVec.extractLsb'_toNat, Nat.shiftRight_zero]

end Parts

/-! ## Weights -/

/-- What the parts of a finite double weigh. A mantissa has its leading digit unless the exponent is
the least. -/
inductive Weighs : UnpackedFloat → Int → Prop where
  | zero (sign : Sign) : Weighs (.zero sign) 0
  | finite (sign : Sign) {mantissa : Nat} {exponent : Int} {positive : 0 < mantissa}
      (least : -1074 ≤ exponent) (within : mantissa < 2 ^ 53)
      (full : exponent = -1074 ∨ 2 ^ 52 ≤ mantissa) :
      Weighs (.finite sign mantissa exponent positive)
        (sign.apply ((exponent + 1074) * 2 ^ 52 + mantissa))

variable {left right : UnpackedFloat} {first second : Int}

/-- Exponents come first, and mantissas decide between equal ones. -/
theorem compare_parts {mantissa other : Nat} {exponent another : Int}
    (least : -1074 ≤ exponent) (also : -1074 ≤ another)
    (within : mantissa < 2 ^ 53) (below : other < 2 ^ 53)
    (full : exponent = -1074 ∨ 2 ^ 52 ≤ mantissa) (filled : another = -1074 ∨ 2 ^ 52 ≤ other) :
    (compare exponent another).then (compare mantissa other) =
      compare ((exponent + 1074) * 2 ^ 52 + (mantissa : Int))
        ((another + 1074) * 2 ^ 52 + (other : Int)) := by
  rcases Int.lt_trichotomy exponent another with less | same | more
  · rw [Int.compare_eq_lt.2 less, Int.compare_eq_lt.2 (by omega)]
    rfl
  · subst same
    rw [Int.compare_eq_eq.2 rfl]
    change compare mantissa other = _
    rcases Nat.lt_trichotomy mantissa other with less | same | more
    · rw [Nat.compare_eq_lt.2 less, Int.compare_eq_lt.2 (by omega)]
    · rw [Nat.compare_eq_eq.2 same, Int.compare_eq_eq.2 (by omega)]
    · rw [Nat.compare_eq_gt.2 more, Int.compare_eq_gt.2 (by omega)]
  · rw [Int.compare_eq_gt.2 more, Int.compare_eq_gt.2 (by omega)]
    rfl

theorem compare_neg (first second : Int) :
    compare (-first) (-second) = (compare first second).swap := by
  rcases Int.lt_trichotomy first second with less | same | more
  · rw [Int.compare_eq_lt.2 less, Int.compare_eq_gt.2 (by omega)]
    rfl
  · rw [Int.compare_eq_eq.2 same, Int.compare_eq_eq.2 (by omega)]
    rfl
  · rw [Int.compare_eq_gt.2 more, Int.compare_eq_lt.2 (by omega)]
    rfl

/-- Doubles are ordered as their weights are. -/
theorem Weighs.compare (weighs : Weighs left first) (also : Weighs right second) :
    left.compare right = some (compare first second) := by
  cases weighs with
  | zero sign =>
      cases also with
      | zero other => rfl
      | @finite other mantissa exponent positive least within full =>
          cases other with
          | negative => rw [Int.compare_eq_gt.2 (by simp only [Sign.apply]; omega)]; rfl
          | positive => rw [Int.compare_eq_lt.2 (by simp only [Sign.apply]; omega)]; rfl
  | @finite sign mantissa exponent positive least within full =>
      cases also with
      | zero other =>
          cases sign with
          | negative => rw [Int.compare_eq_lt.2 (by simp only [Sign.apply]; omega)]; rfl
          | positive => rw [Int.compare_eq_gt.2 (by simp only [Sign.apply]; omega)]; rfl
      | @finite other small another occupied bounded below filled =>
          have parts := compare_parts least bounded within below full filled
          cases sign with
          | negative =>
              cases other with
              | negative =>
                  simp only [Sign.apply]
                  rw [compare_neg, ← parts]
                  rfl
              | positive => rw [Int.compare_eq_lt.2 (by simp only [Sign.apply]; omega)]; rfl
          | positive =>
              cases other with
              | negative => rw [Int.compare_eq_gt.2 (by simp only [Sign.apply]; omega)]; rfl
              | positive =>
                  simp only [Sign.apply]
                  rw [← parts]
                  rfl

theorem Weighs.neg (weighs : Weighs left first) : Weighs left.neg (-first) := by
  cases weighs with
  | zero sign => exact .zero (-sign)
  | @finite sign mantissa exponent positive least within full =>
      have turned := @Weighs.finite (-sign) mantissa exponent positive least within full
      cases sign with
      | negative =>
          simp only [Sign.apply, Int.neg_neg]
          exact turned
      | positive => exact turned

/-- Bits below those of infinity have no sign. -/
theorem ofBitVec_unpackSign {bits : BitVec Format.binary64.numBits}
    (finite : bits.toNat < Decimal.infinityBits) :
    Sign.ofBitVec (unpackSign bits) = .positive := by
  have bound : bits.toNat < 2047 * 2 ^ 52 := finite
  have unsigned : unpackSign bits = 0#1 := by
    apply BitVec.eq_of_toNat_eq
    rw [toNat_unpackSign]
    change _ = 0
    omega
  rw [unsigned]
  rfl

/-- The leading digit of a mantissa is not among its bits. -/
theorem toNat_leading (mantissa : BitVec 52) :
    (1#1 ++ mantissa).toNat = 2 ^ 52 + mantissa.toNat := by
  rw [BitVec.toNat_append, ← Nat.shiftLeft_add_eq_or_of_lt mantissa.isLt]
  rfl

/-- Bits below those of infinity weigh what they are. -/
theorem weighs_unpack {bits : BitVec Format.binary64.numBits}
    (finite : bits.toNat < Decimal.infinityBits) :
    Weighs (UnpackedFloat.unpack .binary64 bits) bits.toNat := by
  have bound : bits.toNat < 2047 * 2 ^ 52 := finite
  have exponent := toNat_unpackExponent bits
  have mantissa := toNat_unpackMantissa bits
  simp only [UnpackedFloat.unpack]
  rw [ofBitVec_unpackSign finite]
  split
  · rename_i greatest
    have full : (unpackExponent bits).toNat = 2047 := congrArg BitVec.toNat greatest
    omega
  · split
    · rename_i least
      have low : (unpackExponent bits).toNat = 0 := congrArg BitVec.toNat least
      split
      · rename_i vacant
        have empty : (unpackMantissa bits).toNat = 0 := congrArg BitVec.toNat vacant
        have none : bits.toNat = 0 := by omega
        rw [none]
        exact .zero .positive
      · have weight : (bits.toNat : Int) =
            Sign.positive.apply ((((unpackExponent bits).toNat : Int) - (1023 + 52) + 1 + 1074) *
              2 ^ 52 + ((unpackMantissa bits).toNat : Int)) := by
          simp only [Sign.apply]
          omega
        have least : ((unpackExponent bits).toNat : Int) - (1023 + 52) + 1 = -1074 := by omega
        have within : (unpackMantissa bits).toNat < 2 ^ 53 := by omega
        rw [weight]
        exact .finite .positive (Int.le_of_eq least.symm) within (.inl least)
    · rename_i above
      have high : (unpackExponent bits).toNat ≠ 0 := by
        intro least
        apply above
        apply BitVec.eq_of_toNat_eq
        exact least
      have leading : (1#1 ++ unpackMantissa bits).toNat =
          2 ^ 52 + (unpackMantissa bits).toNat := toNat_leading _
      have weight : (bits.toNat : Int) =
          Sign.positive.apply ((((unpackExponent bits).toNat : Int) - (1023 + 52) + 1074) *
            2 ^ 52 + ((1#1 ++ unpackMantissa bits).toNat : Int)) := by
        rw [leading]
        simp only [Sign.apply]
        omega
      have least : -1074 ≤ ((unpackExponent bits).toNat : Int) - (1023 + 52) := by omega
      have within : (1#1 ++ unpackMantissa bits).toNat < 2 ^ 53 := by omega
      have full : 2 ^ 52 ≤ (1#1 ++ unpackMantissa bits).toNat := by omega
      rw [weight]
      exact .finite .positive least within (.inr full)

/-! ## Doubles with weights -/

/-- A finite double with its weight. -/
def HasWeight (number : Float) (weight : Int) : Prop :=
  Weighs number.toModel.unpack weight

variable {number other : Float} {weight another : Int}

theorem HasWeight.lt_iff (weighs : HasWeight number weight) (also : HasWeight other another) :
    number < other ↔ weight < another := by
  have defined : number < other ↔
      (number.toModel.unpack.compare other.toModel.unpack == some .lt) = true := decide_eq_true_iff
  rw [defined, Weighs.compare weighs also, beq_iff_eq, Option.some.injEq, Int.compare_eq_lt]

theorem HasWeight.beq_iff (weighs : HasWeight number weight) (also : HasWeight other another) :
    (number == other) = true ↔ weight = another := by
  change (number.toModel.unpack.compare other.toModel.unpack == some .eq) = true ↔ _
  rw [Weighs.compare weighs also, beq_iff_eq, Option.some.injEq, Int.compare_eq_eq]

theorem HasWeight.le_iff (weighs : HasWeight number weight) (also : HasWeight other another) :
    number ≤ other ↔ weight ≤ another := by
  have defined : number ≤ other ↔
      (number.toModel.unpack.compare other.toModel.unpack).any Ordering.isLE = true :=
    decide_eq_true_iff
  rw [defined, Weighs.compare weighs also, Option.any_some, Int.isLE_compare]

/-- What has a weight is a number. -/
theorem HasWeight.isNaN_eq_false (weighs : HasWeight number weight) : number.isNaN = false := by
  simp only [HasWeight] at weighs
  simp only [Float.isNaN, Float.Model.isNaN]
  generalize number.toModel.unpack = parts at weighs ⊢
  cases weighs <;> rfl

/-- A double that equals zero is not above it. -/
theorem le_zero_of_beq (zero : (number == 0.0) = true) : number ≤ 0.0 := by
  have same : number.toModel.unpack.compare (.zero .positive) = some .eq := eq_of_beq zero
  have defined : number ≤ 0.0 ↔
      (number.toModel.unpack.compare (.zero .positive)).any Ordering.isLE = true :=
    decide_eq_true_iff
  rw [defined, same]
  rfl

theorem hasWeight_zero : HasWeight 0.0 0 :=
  Weighs.zero .positive

/-- A negated double weighs the opposite. -/
theorem HasWeight.neg (weighs : HasWeight number weight) : HasWeight (-number) (-weight) := by
  have turned : (-number).toModel.unpack = number.toModel.unpack.neg := unpack_pack_neg _
  simp only [HasWeight]
  rw [turned]
  exact Weighs.neg weighs

theorem hasWeight_ofBits {word : Nat} (finite : word < Decimal.infinityBits) :
    HasWeight (Float.ofBits (UInt64.ofNat word)) word := by
  have same : (UInt64.ofNat word).toBitVec.toNat = word := by
    apply UInt64.toNat_ofNat_of_lt'
    change word < 2047 * 2 ^ 52 at finite
    change word < 2 ^ 64
    omega
  have taken : (Float.ofBits (UInt64.ofNat word)).toModel.unpack =
      UnpackedFloat.unpack .binary64 (UInt64.ofNat word).toBitVec := unpack_pack_unpack _
  have weighs : Weighs (UnpackedFloat.unpack .binary64 (UInt64.ofNat word).toBitVec)
      (UInt64.ofNat word).toBitVec.toNat := weighs_unpack (by rw [same]; exact finite)
  rw [same] at weighs
  simp only [HasWeight]
  rw [taken]
  exact weighs

end VisualNovel.Double
