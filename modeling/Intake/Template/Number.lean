import Intake.Number.Shortest
import Intake.Template.Basic

/-! The digits with which directives write numbers, the sign left aside: whole numbers in some base,
and other numbers with a fixed number of places, with a power of ten, or with whichever of the two
is shorter. -/

namespace Intake.Template

open Number

/-- The digits of a whole number, at least as many as the precision. -/
def wholeDigits (base : Nat) (precision : Option Nat) (n : Nat) : List Char :=
  let digits := Nat.toDigits base n
  List.replicate (precision.getD 0 - digits.length) '0' ++ digits

/-- A quotient with `places` places; the alternate form has a point in any case. -/
def fixedDigits (places : Nat) (alternate : Bool) (num den : Nat) : List Char :=
  let digits := digitsOf (Double.roundHalfEven (num * tenTo places) den)
  Decimal.pointed digits places ++ if alternate && places = 0 then ['.'] else []

/-- The first `places + 1` digits of a quotient as a number, and the power of ten of the first. -/
def leadingDigits (places : Nat) (num den : Nat) : Nat × Int :=
  if num = 0 then (0, 0)
  else
    let power := leadingPower num den
    let shift := (places : Int) - power
    let n :=
      if 0 ≤ shift then Double.roundHalfEven (num * tenTo shift.toNat) den
      else Double.roundHalfEven num (den * tenTo shift.natAbs)
    if n = tenTo (places + 1) then (tenTo places, power + 1) else (n, power)

/-- A power of ten behind its mark. -/
def powerDigits (power : Int) : List Char :=
  let digits := digitsOf power.natAbs
  'e' :: (if power < 0 then '-' else '+') :: List.replicate (2 - digits.length) '0' ++ digits

/-- A quotient with a power of ten. -/
def scientificDigits (places : Nat) (alternate : Bool) (num den : Nat) : List Char :=
  let (n, power) := leadingDigits places num den
  let digits := digitsOf n
  let filled := List.replicate (places + 1 - digits.length) '0' ++ digits
  filled.take 1 ++ (if places = 0 && !alternate then [] else '.' :: filled.drop 1) ++
    powerDigits power

/-- Digits without the zeros at the end of their places. -/
def withoutEndZeros (digits : List Char) : List Char :=
  if digits.contains '.' then
    let kept := (digits.reverse.dropWhile (· == '0')).reverse
    if kept.getLast? == some '.' then kept.dropLast else kept
  else digits

/-- A quotient with `precision` digits at most, written without a power of ten if that power is
neither small nor large. -/
def generalDigits (precision : Nat) (alternate : Bool) (num den : Nat) : List Char :=
  let digits := max precision 1
  let (_, power) := leadingDigits (digits - 1) num den
  if -4 ≤ power && power < digits then
    let text := fixedDigits ((digits : Int) - 1 - power).toNat alternate num den
    if alternate then text else withoutEndZeros text
  else
    let text := scientificDigits (digits - 1) alternate num den
    if alternate then text
    else
      let (front, power) := text.span (· != 'e')
      withoutEndZeros front ++ power

/-- The digits of a double as a letter asks for them. -/
def realDigits (letter : Char) (precision : Nat) (alternate : Bool) : Double → List Char
  | .nan => ['n', 'a', 'n']
  | .infinite _ => ['i', 'n', 'f']
  | .finite _ mantissa exponent =>
    let (num, den) := Double.scaled mantissa 1 exponent
    if letter = 'f' then fixedDigits precision alternate num den
    else if letter = 'e' then scientificDigits precision alternate num den
    else generalDigits precision alternate num den

/-- Whether a double has a minus sign. -/
def isNegative : Double → Bool
  | .nan => false
  | .infinite negative => negative
  | .finite negative _ _ => negative

end Intake.Template
