import Intake.Number.Decimal

/-! Numbers in the binary format of 64 bits: the nearest one to a quotient, and the parts of one. A
finite number is a whole number below 2 ^ 53 times a power of two that is at least 2 ^ -1074. -/

namespace Intake.Number

/-- What a double stands for. -/
inductive Double where
  | nan
  | infinite (negative : Bool)
  | finite (negative : Bool) (mantissa : Nat) (exponent : Int)
  deriving DecidableEq, Repr

namespace Double

/-- The parts of a double. -/
def ofFloat (x : Float) : Double :=
  let bits := x.toBits.toNat
  let negative := bits / twoTo 63 == 1
  let power : Nat := bits / twoTo 52 % twoTo 11
  let fraction : Nat := bits % twoTo 52
  if power = 2047 then if fraction = 0 then .infinite negative else .nan
  else if power = 0 then .finite negative fraction (-1074)
  else .finite negative (twoTo 52 + fraction) ((power : Int) - 1075)

/-- The bits of a double; a mantissa of 2 ^ 52 or more is taken to be normal. -/
def toBits : Double → Nat
  | nan => 2047 * twoTo 52 + twoTo 51
  | infinite negative => (if negative then twoTo 63 else 0) + 2047 * twoTo 52
  | finite negative mantissa exponent =>
    (if negative then twoTo 63 else 0) +
      if mantissa < twoTo 52 then mantissa
      else (exponent + 1075).toNat * twoTo 52 + (mantissa - twoTo 52)

def toFloat (d : Double) : Float := Float.ofBits d.toBits.toUInt64

/-- `num / den` times `2 ^ shift` as a quotient of natural numbers. -/
def scaled (num den : Nat) (shift : Int) : Nat × Nat :=
  if 0 ≤ shift then (num * twoTo shift.toNat, den) else (num, den * twoTo shift.natAbs)

/-- `num / den` to the nearest whole number, a half to the even one. -/
def roundHalfEven (num den : Nat) : Nat :=
  let quotient := num / den
  let twice := 2 * (num % den)
  if twice < den then quotient
  else if den < twice then quotient + 1
  else quotient + quotient % 2

/-- The nearest double to `num / den`, a tie to the even mantissa; `den` is not zero. -/
def nearest (negative : Bool) (num den : Nat) : Double :=
  if num = 0 then .finite negative 0 (-1074)
  else
    let guess : Int := (num.log2 : Int) - den.log2 - 52
    let (n, d) := scaled num den (-guess)
    let exponent := max (if n < d * twoTo 52 then guess - 1 else guess) (-1074)
    let (n, d) := scaled num den (-exponent)
    let mantissa := roundHalfEven n d
    let (mantissa, exponent) :=
      if mantissa = twoTo 53 then (twoTo 52, exponent + 1) else (mantissa, exponent)
    if 971 < exponent then .infinite negative else .finite negative mantissa exponent

end Double

end Intake.Number
