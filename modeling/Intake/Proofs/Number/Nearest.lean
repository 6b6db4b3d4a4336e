import Intake.Proofs.Number.Numeral
import Intake.Proofs.Number.Rounding
import Mathlib.Algebra.Order.Field.Basic
import Mathlib.Tactic.Linarith
import Mathlib.Tactic.Positivity

/-! Rounding to the nearest multiple of a power of ten. There is one such multiple for each number
if a half goes away from zero, it grows with the number, and it is what the rounding of decimals
gives as long as it has at most 28 digits. -/

namespace Intake.Number

/-- `y` is the multiple of `10 ^ -p` nearest to `x`, and of two that are equally near the one that
is further away from zero. -/
structure Nearest (p : Nat) (x y : ℚ) : Prop where
  multiple : ∃ k : ℤ, y = k / 10 ^ p
  nearest (k : ℤ) : |x - y| ≤ |x - k / 10 ^ p|
  outward (k : ℤ) : |x - k / 10 ^ p| = |x - y| → |(k : ℚ) / 10 ^ p| ≤ |y|

namespace Nearest

variable {p : Nat} {x y x' y' : ℚ}

theorem neg (h : Nearest p x y) : Nearest p (-x) (-y) where
  multiple := by
    obtain ⟨k, rfl⟩ := h.multiple
    exact ⟨-k, by push_cast; ring⟩
  nearest k := by
    have hOpposite := h.nearest (-k)
    rw [← abs_neg, ← abs_neg (x - _)] at hOpposite
    convert hOpposite using 2 <;> push_cast <;> ring
  outward k hTie := by
    rw [abs_neg, ← abs_neg (_ / _)]
    have hOpposite := h.outward (-k)
    rw [← abs_neg, ← abs_neg (x - y)] at hOpposite
    convert hOpposite ?_ using 2
    · push_cast
      ring
    · convert hTie using 2 <;> push_cast <;> ring

theorem unique (h : Nearest p x y) (h' : Nearest p x y') : y = y' := by
  obtain ⟨k, hk⟩ := h.multiple
  obtain ⟨k', hk'⟩ := h'.multiple
  have hTie : |x - y| = |x - y'| := le_antisymm (hk' ▸ h.nearest k') (hk ▸ h'.nearest k)
  have hSize : |y| = |y'| :=
    le_antisymm (hk ▸ h'.outward k (hk ▸ hTie)) (hk' ▸ h.outward k' (hk' ▸ hTie.symm))
  rcases abs_eq_abs.mp hSize with hSame | hOpposite
  · exact hSame
  · -- Only zero is as far from a multiple as from its opposite, and zero is a multiple itself.
    have hZero : x = 0 ∨ y' = 0 := by
      rcases abs_eq_abs.mp hTie with hTie | hTie
      · exact .inr (by linarith)
      · exact .inl (by linarith)
    rcases hZero with rfl | hZero
    · have hNone := h.nearest 0
      simp only [Int.cast_zero, zero_div, sub_zero, abs_zero, zero_sub, abs_neg] at hNone
      have hLeft : y = 0 := abs_nonpos_iff.mp hNone
      linarith
    · linarith

/-- A greater number is not nearest to a smaller multiple. -/
theorem mono (h : Nearest p x y) (h' : Nearest p x' y') (hLe : x ≤ x') : y ≤ y' := by
  obtain ⟨k, hk⟩ := h.multiple
  obtain ⟨k', hk'⟩ := h'.multiple
  by_contra hNot
  have hLess : y' < y := lt_of_not_ge hNot
  -- Both numbers would lie halfway between the two multiples, and be one.
  have hFirst : |x - y| ≤ |x - y'| := hk' ▸ h.nearest k'
  have hSecond : |x' - y'| ≤ |x' - y| := hk ▸ h'.nearest k
  have hAbove : (y + y') / 2 ≤ x := by
    rcases abs_cases (x - y) with ⟨h1, _⟩ | ⟨h1, _⟩ <;>
      rcases abs_cases (x - y') with ⟨h2, _⟩ | ⟨h2, _⟩ <;> linarith
  have hBelow : x' ≤ (y + y') / 2 := by
    rcases abs_cases (x' - y') with ⟨h1, _⟩ | ⟨h1, _⟩ <;>
      rcases abs_cases (x' - y) with ⟨h2, _⟩ | ⟨h2, _⟩ <;> linarith
  obtain rfl : x = x' := by linarith
  exact hLess.ne (h'.unique h)

end Nearest

section Half

variable {x : ℚ} {k : Nat}

/-- A whole number that is reached from below by a half at least is nearest. -/
theorem abs_sub_le_of_half (hLow : k ≤ x + 1 / 2) (hHigh : x + 1 / 2 < k + 1) (m : ℤ) :
    |x - k| ≤ |x - m| := by
  have hHalf : |x - k| ≤ 1 / 2 := abs_le.mpr ⟨by linarith, by linarith⟩
  rcases lt_trichotomy m k with hLess | rfl | hMore
  · have hGap : (m : ℚ) + 1 ≤ k := by exact_mod_cast hLess
    exact hHalf.trans (le_abs.mpr (.inl (by linarith)))
  · exact le_refl _
  · have hGap : (k : ℚ) + 1 ≤ m := by exact_mod_cast hMore
    exact hHalf.trans (le_abs.mpr (.inr (by linarith)))

/-- Of two whole numbers as near to a number that is not negative, it is the greater one. -/
theorem abs_le_of_half (hx : 0 ≤ x) (hLow : k ≤ x + 1 / 2) (hHigh : x + 1 / 2 < k + 1) {m : ℤ}
    (hTie : |x - m| = |x - k|) : |(m : ℚ)| ≤ k := by
  have hHalf : |x - k| ≤ 1 / 2 := abs_le.mpr ⟨by linarith, by linarith⟩
  rw [hTie.symm, abs_le] at hHalf
  have hBelow : m ≤ k := by
    by_contra hNot
    have hGap : (k : ℚ) + 1 ≤ m := by exact_mod_cast not_le.mp hNot
    linarith
  have hAbove : -(k : ℚ) ≤ m := by
    by_contra hNot
    have hBelow : (m : ℚ) < 0 := by linarith [not_le.mp hNot, (Nat.cast_nonneg k : (0 : ℚ) ≤ k)]
    have hOne : (m : ℚ) ≤ -1 := by
      have hInt : m < 0 := by exact_mod_cast hBelow
      exact_mod_cast (by omega : m ≤ -1)
    linarith
  exact abs_le.mpr ⟨hAbove, by exact_mod_cast hBelow⟩

theorem abs_sub_div_pow (p : Nat) (x m : ℚ) :
    |x - m / 10 ^ p| = |x * 10 ^ p - m| / 10 ^ p := by
  have hPower : (0 : ℚ) < 10 ^ p := by positivity
  rw [← abs_of_pos hPower, ← abs_div, abs_of_pos hPower]
  congr 1
  field_simp

/-- Adding a half and leaving out what is behind the point gives the nearest multiple of a number
that is not negative. -/
theorem nearest_of_half {p : Nat} (hx : 0 ≤ x) (hLow : k ≤ x * 10 ^ p + 1 / 2)
    (hHigh : x * 10 ^ p + 1 / 2 < k + 1) : Nearest p x (k / 10 ^ p) where
  multiple := ⟨k, by simp⟩
  nearest m := by
    have hPower : (0 : ℚ) ≤ 10 ^ p := by positivity
    rw [abs_sub_div_pow, abs_sub_div_pow]
    exact div_le_div_of_nonneg_right (by simpa using abs_sub_le_of_half hLow hHigh m) hPower
  outward m hTie := by
    have hPower : (0 : ℚ) < 10 ^ p := by positivity
    rw [abs_sub_div_pow, abs_sub_div_pow, div_left_inj' hPower.ne'] at hTie
    rw [abs_div, abs_of_nonneg (by positivity : (0 : ℚ) ≤ k / 10 ^ p), abs_of_pos hPower]
    gcongr
    exact abs_le_of_half (by positivity) hLow hHigh hTie

end Half

theorem roundHalfUp_bounds (num : Nat) {den : Nat} (hDen : 0 < den) :
    (roundHalfUp num den : ℚ) ≤ num / den + 1 / 2 ∧
      (num : ℚ) / den + 1 / 2 < roundHalfUp num den + 1 := by
  have hLow : roundHalfUp num den * (2 * den) ≤ 2 * num + den := Nat.div_mul_le_self _ _
  have hHigh : 2 * num + den < (roundHalfUp num den + 1) * (2 * den) :=
    (Nat.lt_mul_div_succ _ (by omega)).trans_eq (Nat.mul_comm _ _)
  have hPos : (0 : ℚ) < den := by exact_mod_cast hDen
  have hSum : (num : ℚ) / den + 1 / 2 = (2 * num + den) / (2 * den) := by field_simp
  rw [hSum, le_div_iff₀ (by positivity), div_lt_iff₀ (by positivity)]
  constructor
  · exact_mod_cast hLow
  · exact_mod_cast hHigh

theorem tenTo_cast (n : Nat) : (tenTo n : ℚ) = 10 ^ n := by
  rw [tenTo]
  exact_mod_cast rfl

namespace Decimal

variable {d : Decimal} {p : Nat}

/-- The value without the sign. -/
def magnitude (d : Decimal) : ℚ := d.coefficient * 10 ^ d.exponent

theorem magnitude_nonneg : 0 ≤ d.magnitude :=
  mul_nonneg (Nat.cast_nonneg _) (zpow_nonneg (by norm_num) _)

theorem value_eq (d : Decimal) : d.value = (if d.negative then -1 else 1) * d.magnitude :=
  mul_assoc _ _ _

theorem abs_value (d : Decimal) : |d.value| = d.magnitude := by
  rw [value_eq, abs_mul, abs_of_nonneg magnitude_nonneg]
  cases d.negative <;> simp

/-- The coefficient is the magnitude in units of the last place. -/
theorem coefficient_eq (h : d.exponent = -(p : Int)) :
    (d.coefficient : ℚ) = |d.value| * 10 ^ p := by
  rw [abs_value, magnitude, h, zpow_neg, zpow_natCast]
  field_simp

/-- The quotient that is rounded is the magnitude in units of the last place. -/
theorem magnitude_scaled (d : Decimal) (p : Nat) :
    ((d.coefficient * tenTo (d.exponent.toNat + (p : Int).toNat) : Nat) : ℚ) /
      (tenTo ((-d.exponent).toNat + (-(p : Int)).toNat) : Nat) = d.magnitude * 10 ^ p := by
  have hNone : (-(p : Int)).toNat = 0 := by omega
  have hPower : (10 : ℚ) ^ d.exponent = 10 ^ d.exponent.toNat / 10 ^ (-d.exponent).toNat := by
    rw [← zpow_natCast, ← zpow_natCast, ← zpow_sub₀ (by norm_num : (10 : ℚ) ≠ 0)]
    congr 1
    omega
  rw [hNone, Nat.add_zero, Int.toNat_natCast, magnitude, hPower, Nat.cast_mul, tenTo_cast,
    tenTo_cast, pow_add]
  ring

/-- What a decimal becomes when it is rounded is the multiple nearest to it. -/
theorem rescaled_nearest (d : Decimal) (p : Nat) :
    Nearest p d.value (d.rescaled p).value := by
  obtain ⟨hLow, hHigh⟩ := roundHalfUp_bounds
    (d.coefficient * tenTo (d.exponent.toNat + (p : Int).toNat))
    (tenTo_pos ((-d.exponent).toNat + (-(p : Int)).toNat))
  rw [magnitude_scaled, ← rescaled_coefficient] at hLow hHigh
  have hNearest := nearest_of_half magnitude_nonneg hLow hHigh
  have hMagnitude : (d.rescaled p).magnitude = (d.rescaled p).coefficient / 10 ^ p := by
    rw [magnitude, div_eq_mul_inv]
    congr 1
    exact (zpow_neg _ _).trans (by rw [zpow_natCast])
  rw [value_eq, value_eq, hMagnitude]
  show Nearest p _ ((if d.negative then -1 else 1) * _)
  cases d.negative with
  | false => simpa using hNearest
  | true => simpa using hNearest.neg

theorem rescaled_exponent (places : Int) : (d.rescaled places).exponent = -places := rfl

/-- What rounding gives is the decimal in the places wanted, or in the most places there are. -/
theorem eq_rescaled_of_round {places : Int} {r : Decimal} (h : d.round places = .ok r) :
    r = d.rescaled (min places maxPlaces) := by
  unfold round at h
  split at h
  · cases h
  split at h
  · cases h
  dsimp only at h
  split at h
  · next hZero =>
    cases h
    have hCoefficient : (d.rescaled (min places maxPlaces)).coefficient = 0 := rescaled_zero hZero
    rw [← hCoefficient]
    rfl
  split at h
  · cases h
  split at h <;> cases h
  rfl

/-- Rounding to places that there are succeeds unless it takes more than 28 digits. -/
theorem round_eq_ok {r : Decimal} (hPlaces : p ≤ maxPlaces) :
    d.round p = .ok r ↔ (d.rescaled p).coefficient < tenTo precision ∧ r = d.rescaled p := by
  have hMin : min (p : Int) maxPlaces = p := by omega
  constructor
  · intro h
    obtain rfl := eq_rescaled_of_round h
    rw [hMin] at h
    refine ⟨lt_of_not_ge fun hMany => ?_, by rw [hMin]⟩
    have hBad : d.Unroundable p .tooManyDigits := .inr ⟨by omega, hMin.symm ▸ hMany⟩
    rw [round_eq_error.mpr hBad] at h
    cases h
  · rintro ⟨hDigits, rfl⟩
    cases hRound : d.round p with
    | ok r => rw [eq_rescaled_of_round hRound, hMin]
    | error fault =>
      have hBad := round_eq_error.mp hRound
      cases fault with
      | tooManyDigits =>
        rcases hBad with hLimit | ⟨-, hMany⟩
        · have hRoom : maxPlaces ≤ placesLimit := by decide
          omega
        · rw [hMin] at hMany
          omega
      | exponentTooLarge =>
        have hLow := hBad.2
        omega
      | _ => cases hBad

/-- Nothing is cut off a decimal without places. -/
theorem truncated_eq (h : d.exponent = 0) : (d.truncated : ℚ) = d.value := by
  have hOne : tenTo 0 = 1 := rfl
  rw [truncated, h, if_pos (le_refl _), Int.toNat_zero, hOne, Nat.mul_one, value, h, zpow_zero]
  cases d.negative <;> simp

/-- A decimal in the places wanted stays as it is. -/
theorem rescaled_self (h : d.exponent = -(p : Int)) : d.rescaled p = d := by
  have hCoefficient : (d.rescaled p).coefficient = d.coefficient := by
    have hZero : (-(p : Int)).toNat = 0 := by omega
    rw [rescaled_coefficient, h, neg_neg, hZero, Nat.zero_add, Nat.add_zero, Int.toNat_natCast,
      roundHalfUp]
    have hPos := tenTo_pos p
    exact Nat.div_eq_of_lt_le (by linarith) (by linarith)
  exact (Decimal.mk.injEq ..).mpr ⟨rfl, hCoefficient, h.symm⟩

end Decimal

end Intake.Number
