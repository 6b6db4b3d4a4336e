import Intake.Number.Decimal
import Intake.Number.Double

/-! The text of a double: the fewest digits that read back, and of those the nearest to the value.
A power of ten is written from 10 ^ 16 on and below 10 ^ -4. -/

namespace Intake.Number

/-- The quotient `num / den` compared with `10 ^ power`: whether it is at least that. -/
def atLeastPowerOfTen (num den : Nat) (power : Int) : Bool :=
  if 0 ≤ power then den * tenTo power.toNat ≤ num else den ≤ num * tenTo power.natAbs

/-- The power of ten of the first digit of `num / den`, both not zero. -/
def leadingPower (num den : Nat) : Int :=
  let guess : Int := (digitsOf num).length - (digitsOf den).length
  if atLeastPowerOfTen num den guess then guess else guess - 1

/-- The interval of reals that round to `mantissa * 2 ^ exponent`, as numerators over a common
denominator: the lower end, the value, the upper end, and the denominator. -/
def roundingInterval (mantissa : Nat) (exponent : Int) : Nat × Nat × Nat × Nat :=
  let below := if mantissa = twoTo 52 && -1074 < exponent then 1 else 2
  let scale (n : Nat) : Nat := if 0 ≤ exponent then n * twoTo exponent.toNat else n
  (scale (4 * mantissa - below), scale (4 * mantissa), scale (4 * mantissa + 2),
    if 0 ≤ exponent then 4 else 4 * twoTo exponent.natAbs)

/-- The neighbours of a value on the grid of multiples of `10 ^ power` that lie in the interval,
the nearer one, an even one of two that are equally near. -/
def gridPoint? (interval : Nat × Nat × Nat × Nat) (even : Bool) (power : Int) : Option Nat :=
  let (low, value, high, den) := interval
  let (factor, unit) :=
    if 0 ≤ power then (1, den * tenTo power.toNat) else (tenTo power.natAbs, den)
  let (low, value, high) := (low * factor, value * factor, high * factor)
  let lower := value / unit
  let inside (n : Nat) : Bool :=
    if even then low ≤ n * unit && n * unit ≤ high else low < n * unit && n * unit < high
  let toLower := value - lower * unit
  let toUpper := (lower + 1) * unit - value
  match inside lower && lower != 0, inside (lower + 1) with
  | true, true =>
    if toLower < toUpper || (toLower == toUpper && lower % 2 == 0) then some lower
    else some (lower + 1)
  | true, false => some lower
  | false, true => some (lower + 1)
  | false, false => none

/-- The shortest digits of `mantissa * 2 ^ exponent` and the power of ten of the last one. -/
def shortest (mantissa : Nat) (exponent : Int) : Nat × Int :=
  let interval := roundingInterval mantissa exponent
  let leading := leadingPower interval.2.1 interval.2.2.2
  let found := (List.range 17).findSome? fun (n : Nat) =>
    (gridPoint? interval (mantissa % 2 == 0) (leading - n)).map fun digits =>
      (digits, leading - (n : Int))
  found.getD (interval.2.1 / interval.2.2.2, 0)

/-- Digits without the zeros at the end, and the power of ten of the last one left. -/
def withoutEndZeros (digits : List Char) (power : Int) : List Char × Int :=
  let kept := (digits.reverse.dropWhile (· == '0')).reverse
  (kept, power + (digits.length - kept.length : Nat))

/-- A power of ten as it is written behind the digits: a sign and two digits at least. -/
def powerText (power : Int) : List Char :=
  let digits := digitsOf power.natAbs
  'e' :: (if power < 0 then '-' else '+') :: (if digits.length < 2 then '0' :: digits else digits)

/-- Digits and the power of ten of the last one as the text of a double. -/
def positional (digits : List Char) (power : Int) : List Char :=
  let leading := power + digits.length - 1
  if leading < -4 || 16 ≤ leading then
    match digits with
    | [] => []
    | [d] => d :: powerText leading
    | d :: rest => d :: '.' :: rest ++ powerText leading
  else if 0 ≤ power then digits ++ List.replicate power.toNat '0' ++ ['.', '0']
  else Decimal.pointed digits power.natAbs

def Double.text : Double → String
  | nan => "nan"
  | infinite negative => if negative then "-inf" else "inf"
  | finite negative mantissa exponent =>
    let body :=
      if mantissa = 0 then ['0', '.', '0']
      else
        let (digits, power) := shortest mantissa exponent
        let (digits, power) := withoutEndZeros (digitsOf digits) power
        positional digits power
    String.ofList (if negative then '-' :: body else body)

def floatText (x : Float) : String := (Double.ofFloat x).text

def Decimal.toDouble (d : Decimal) : Double :=
  let (num, den) := d.ratio
  Double.nearest d.negative num den

end Intake.Number
