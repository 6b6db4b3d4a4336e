import Intake.Fault
import Intake.Number.Decimal

/-! Rounding of decimals to a number of places, a half away from zero. A rounded number has at most
28 digits, and the places lie within the powers of ten that such numbers can have. -/

namespace Intake.Number

/-- The most digits of a rounded number. -/
def precision : Nat := 28

/-- The greatest power of ten of a first digit. -/
def maxExponent : Nat := 999999

/-- The most places that a number other than zero can be rounded to. -/
def maxPlaces : Nat := maxExponent + precision - 1

/-- The most places that can be asked for. -/
def placesLimit : Nat := 2 * (maxExponent + precision)

/-- `num / den` to the nearest whole number, a half upward. -/
def roundHalfUp (num den : Nat) : Nat := (2 * num + den) / (2 * den)

namespace Decimal

/-- The number as a multiple of `10 ^ -places`, whatever its size. Negative places round to tens,
hundreds and so on. -/
def rescaled (d : Decimal) (places : Int) : Decimal :=
  let (num, den) := d.ratio
  let coefficient :=
    if 0 ≤ places then roundHalfUp (num * tenTo places.toNat) den
    else roundHalfUp num (den * tenTo places.natAbs)
  ⟨d.negative, coefficient, -places⟩

/-- The number as a multiple of `10 ^ -places`, unless it would have too many digits. The first
test of a number other than zero counts the digits before the rounding, the last one those after
it. -/
def round (d : Decimal) (places : Int) : Except Fault Decimal :=
  if (placesLimit : Int) < places.natAbs then .error .tooManyDigits
  else if places < -(maxExponent : Int) then .error .exponentTooLarge
  else
    let places := min places maxPlaces
    if d.coefficient = 0 then .ok ⟨d.negative, 0, -places⟩
    else if (precision : Int) < d.digitCount + d.exponent + places then .error .tooManyDigits
    else
      let rounded := d.rescaled places
      if rounded.digitCount ≤ precision then .ok rounded else .error .tooManyDigits

/-- The number in at most 28 digits, a tie to the even neighbour. -/
def limited (d : Decimal) : Decimal :=
  let excess := d.digitCount - precision
  if excess = 0 then d
  else
    let unit := tenTo excess
    let quotient := d.coefficient / unit
    let twice := 2 * (d.coefficient % unit)
    let rounded := if twice < unit || (twice == unit && quotient % 2 == 0) then quotient
      else quotient + 1
    ⟨d.negative, rounded, d.exponent + excess⟩

/-- The part of a number behind the point; `none` if the part before it has too many digits. -/
def fraction? (d : Decimal) : Option Decimal :=
  if 0 ≤ d.exponent then
    if precision < d.digitCount + d.exponent.toNat && d.coefficient != 0 then none
    else some ⟨d.negative, 0, 0⟩
  else
    let unit := tenTo d.exponent.natAbs
    if tenTo precision ≤ d.coefficient / unit then none
    else some (limited ⟨d.negative, d.coefficient % unit, d.exponent⟩)

/-- Sixty times a number, in at most 28 digits. -/
def sixtyfold (d : Decimal) : Decimal := limited { d with coefficient := 60 * d.coefficient }

end Decimal

end Intake.Number
