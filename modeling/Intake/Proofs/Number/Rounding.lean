import Intake.Number.Rounding

/-! When a number cannot be rounded: the places lie outside of what can be asked for, or the rounded
number would have more than 28 digits. The count of digits before the rounding only foresees what
the count after it finds. -/

namespace Intake.Number

theorem tenTo_add (m n : Nat) : tenTo (m + n) = tenTo m * tenTo n := Nat.pow_add 10 m n

theorem tenTo_pos (n : Nat) : 0 < tenTo n := Nat.pow_pos (by decide)

theorem tenTo_le {m n : Nat} (h : m ≤ n) : tenTo m ≤ tenTo n := Nat.pow_le_pow_right (by decide) h

namespace Decimal

variable {d : Decimal}

theorem digitCount_le_iff {n : Nat} (hn : 0 < n) : d.digitCount ≤ n ↔ d.coefficient < tenTo n :=
  Nat.length_toDigits_le_iff (by decide) hn

theorem digitCount_pos : 0 < d.digitCount := Nat.length_toDigits_pos

/-- A number other than zero is at least the power of ten of its first digit. -/
theorem tenTo_le_coefficient (h : d.coefficient ≠ 0) :
    tenTo (d.digitCount - 1) ≤ d.coefficient := by
  by_cases hOne : d.digitCount = 1
  · rw [hOne]
    exact Nat.pos_of_ne_zero h
  · have hPos := d.digitCount_pos
    have hNot : ¬d.digitCount ≤ d.digitCount - 1 := by omega
    rw [digitCount_le_iff (by omega)] at hNot
    exact Nat.le_of_not_lt hNot

end Decimal

theorem le_roundHalfUp {num den bound : Nat} (hDen : 0 < den) (h : bound * den ≤ num) :
    bound ≤ roundHalfUp num den := by
  rw [roundHalfUp, Nat.le_div_iff_mul_le (by omega)]
  calc bound * (2 * den) = 2 * (bound * den) := by rw [Nat.mul_left_comm]
    _ ≤ 2 * num := Nat.mul_le_mul_left 2 h
    _ ≤ 2 * num + den := Nat.le_add_right _ _

namespace Decimal

variable {d : Decimal} {places : Int} {fault : Fault}

theorem ratio_eq (d : Decimal) :
    d.ratio = (d.coefficient * tenTo d.exponent.toNat, tenTo (-d.exponent).toNat) := by
  have hOne : tenTo 0 = 1 := rfl
  unfold ratio
  split
  · have hNone : (-d.exponent).toNat = 0 := by omega
    rw [hNone, hOne]
  · have hNone : d.exponent.toNat = 0 := by omega
    have hAbs : (-d.exponent).toNat = d.exponent.natAbs := by omega
    rw [hNone, hAbs, hOne, Nat.mul_one]

/-- The powers of ten of a number and of its last place meet in one quotient. -/
theorem rescaled_coefficient (d : Decimal) (places : Int) :
    (d.rescaled places).coefficient =
      roundHalfUp (d.coefficient * tenTo (d.exponent.toNat + places.toNat))
        (tenTo ((-d.exponent).toNat + (-places).toNat)) := by
  have hOne : tenTo 0 = 1 := rfl
  rw [tenTo_add, tenTo_add, ← Nat.mul_assoc, rescaled, ratio_eq]
  dsimp only
  split
  · have hNone : (-places).toNat = 0 := by omega
    rw [hNone, hOne, Nat.mul_one]
  · have hNone : places.toNat = 0 := by omega
    have hAbs : (-places).toNat = places.natAbs := by omega
    rw [hNone, hAbs, hOne, Nat.mul_one]

/-- A number whose first digit lies too far in front of the last place wanted has too many digits
when it is rounded. -/
theorem tenTo_le_rescaled (hSome : d.coefficient ≠ 0)
    (h : (precision : Int) < d.digitCount + d.exponent + places) :
    tenTo precision ≤ (d.rescaled places).coefficient := by
  have hPos := d.digitCount_pos
  have hPowers : precision + ((-d.exponent).toNat + (-places).toNat) ≤
      d.digitCount - 1 + (d.exponent.toNat + places.toNat) := by omega
  rw [rescaled_coefficient]
  refine le_roundHalfUp (tenTo_pos _) ?_
  calc tenTo precision * tenTo ((-d.exponent).toNat + (-places).toNat)
      = tenTo (precision + ((-d.exponent).toNat + (-places).toNat)) := (tenTo_add _ _).symm
    _ ≤ tenTo (d.digitCount - 1 + (d.exponent.toNat + places.toNat)) := tenTo_le hPowers
    _ = tenTo (d.digitCount - 1) * tenTo (d.exponent.toNat + places.toNat) := tenTo_add _ _
    _ ≤ d.coefficient * tenTo (d.exponent.toNat + places.toNat) :=
      Nat.mul_le_mul_right _ (tenTo_le_coefficient hSome)

/-- What is wrong with rounding a number to some places. -/
def Unroundable (d : Decimal) (places : Int) : Fault → Prop
  | .tooManyDigits => placesLimit < places.natAbs ∨
      (-(maxExponent : Int) ≤ places ∧
        tenTo precision ≤ (d.rescaled (min places maxPlaces)).coefficient)
  | .exponentTooLarge => places.natAbs ≤ placesLimit ∧ places < -(maxExponent : Int)
  | _ => False

theorem rescaled_zero (h : d.coefficient = 0) : (d.rescaled places).coefficient = 0 := by
  have hPos := tenTo_pos ((-d.exponent).toNat + (-places).toNat)
  rw [rescaled_coefficient, h, Nat.zero_mul, roundHalfUp]
  exact Nat.div_eq_of_lt (by omega)

section Unroundable

variable {places : Int} {fault : Fault}

theorem unroundable_of_limit (h : (placesLimit : Int) < places.natAbs) :
    d.Unroundable places fault ↔ fault = .tooManyDigits := by
  have hHigh : placesLimit < places.natAbs := by omega
  have hNot : ¬places.natAbs ≤ placesLimit := by omega
  cases fault <;> simp [Unroundable, hHigh, hNot]

theorem unroundable_of_low (hLimit : ¬(placesLimit : Int) < places.natAbs)
    (hLow : places < -(maxExponent : Int)) :
    d.Unroundable places fault ↔ fault = .exponentTooLarge := by
  have hHigh : places.natAbs ≤ placesLimit := by omega
  have hNot : ¬-(maxExponent : Int) ≤ places := by omega
  have hWithin : ¬placesLimit < places.natAbs := by omega
  cases fault <;> simp [Unroundable, hHigh, hNot, hWithin, hLow]

/-- Places that can be asked for leave only the digits of the rounded number. -/
theorem unroundable_of_within (hLimit : ¬(placesLimit : Int) < places.natAbs)
    (hLow : ¬places < -(maxExponent : Int)) :
    d.Unroundable places fault ↔ fault = .tooManyDigits ∧
      tenTo precision ≤ (d.rescaled (min places maxPlaces)).coefficient := by
  have hHigh : ¬placesLimit < places.natAbs := by omega
  have hNot : -(maxExponent : Int) ≤ places := by omega
  cases fault <;> simp [Unroundable, hHigh, hNot, hLow]

theorem tenTo_precision_le : tenTo precision ≤ d.coefficient ↔ ¬d.digitCount ≤ precision := by
  rw [digitCount_le_iff (by decide), Nat.not_lt]

/-- Rounding fails exactly if the places cannot be asked for, or if the rounded number has more than
28 digits. -/
theorem round_eq_error : d.round places = .error fault ↔ d.Unroundable places fault := by
  unfold round
  by_cases hLimit : (placesLimit : Int) < places.natAbs
  · rw [if_pos hLimit, unroundable_of_limit hLimit, Except.error.injEq, eq_comm]
  rw [if_neg hLimit]
  by_cases hLow : places < -(maxExponent : Int)
  · rw [if_pos hLow, unroundable_of_low hLimit hLow, Except.error.injEq, eq_comm]
  rw [if_neg hLow, unroundable_of_within hLimit hLow]
  dsimp only
  by_cases hZero : d.coefficient = 0
  · rw [if_pos hZero, rescaled_zero hZero]
    have hPos := tenTo_pos precision
    refine iff_of_false nofun ?_
    omega
  rw [if_neg hZero]
  by_cases hEarly : (precision : Int) < d.digitCount + d.exponent + min places maxPlaces
  · rw [if_pos hEarly]
    have hDigits := tenTo_le_rescaled hZero hEarly
    simp [hDigits, eq_comm]
  · rw [if_neg hEarly, tenTo_precision_le]
    by_cases hFits : (d.rescaled (min places maxPlaces)).digitCount ≤ precision <;>
      simp [hFits, eq_comm]

end Unroundable

end Decimal

end Intake.Number
