import Intake.Number.Arithmetic
import Intake.Xml.Character

/-! Numbers inside paths: how they are read, and how they are written when a text is needed.
Digits are accumulated one after the other in doubles, the fraction apart from the rest. -/

namespace Intake.XPath

open Number

/-- The digits at the beginning of a text as values, and the rest. -/
def leadingDigits (s : List Char) : List Nat × List Char :=
  ((s.takeWhile Char.isDigit).map fun c => c.toNat - 48, s.dropWhile Char.isDigit)

/-- A double with one more digit. -/
def withDigit (x : Double) (d : Nat) : Double := (x.mul (Double.ofInt 10)).add (Double.ofInt d)

/-- Zeros that lead a fraction, and how many digits behind them count. -/
def fractionDigits : Nat := 20

/-- The value of the digits behind a point. -/
def fractionValue (digits : List Nat) : Double :=
  let zeros := (digits.takeWhile (· == 0)).length
  let counted := (digits.drop zeros).take fractionDigits
  (counted.foldl withDigit Double.naught).div (Double.powerOfTen (zeros + counted.length))

/-- An exponent, if one is written; it grows no further than a million. -/
def exponentValue (s : List Char) : Int × List Char :=
  match s with
  | c :: rest =>
    if c = 'e' || c = 'E' then
      let (negative, rest) : Bool × List Char := match rest with
        | '-' :: rest => (true, rest)
        | '+' :: rest => (false, rest)
        | rest => (false, rest)
      let (digits, rest) := leadingDigits rest
      let n := digits.foldl (fun (n : Nat) d => if n < 1000000 then 10 * n + d else n) 0
      (if negative then -n else n, rest)
    else (0, c :: rest)
  | [] => (0, [])

/-- A number without a sign, and the rest; a point needs a digit on one of its sides. -/
def unsignedNumber? (s : List Char) : Option (Double × List Char) :=
  let (whole, rest) := leadingDigits s
  let value := whole.foldl withDigit Double.naught
  let (fraction, rest) : Option (List Nat) × List Char := match rest with
    | '.' :: rest => let (digits, rest) := leadingDigits rest; (some digits, rest)
    | rest => (none, rest)
  if whole.isEmpty && (fraction.getD []).isEmpty then none
  else
    let value := match fraction with
      | some digits => value.add (fractionValue digits)
      | none => value
    let (exponent, rest) := exponentValue rest
    some (if exponent = 0 then value else value.mul (Double.powerOfTen exponent), rest)

/-- The number that a text denotes, blanks around it; no number if it denotes none. -/
def numberOf (s : String) : Double :=
  let s := s.toList.dropWhile Xml.isSpace
  let (negative, s) : Bool × List Char := match s with
    | '-' :: rest => (true, rest)
    | s => (false, s)
  match unsignedNumber? s with
  | some (x, rest) =>
    if rest.all Xml.isSpace then if negative then x.neg else x else .nan
  | none => .nan

/-- Digits behind a point without the zeros at their end, nor the point if nothing is left. -/
def withoutEndZeros (s : List Char) : List Char :=
  match s.reverse.dropWhile (· == '0') with
  | '.' :: rest => rest.reverse
  | kept => kept.reverse

/-- A quotient with the given places behind the point. -/
def fixedText (num den places : Nat) : List Char :=
  Decimal.pointed (digitsOf (Double.roundHalfEven (num * tenTo places) den)) places

/-- A quotient in 15 digits and a power of ten. -/
def scientificText (num den : Nat) : List Char :=
  let power := leadingPower num den
  let shift : Int := 14 - power
  let digits := if 0 ≤ shift then Double.roundHalfEven (num * tenTo shift.toNat) den
    else Double.roundHalfEven num (den * tenTo shift.natAbs)
  let (digits, power) := if digits = tenTo 15 then (tenTo 14, power + 1) else (digits, power)
  withoutEndZeros (Decimal.pointed (digitsOf digits) 14) ++ powerText power

/-- The magnitude of a number that is not a small whole number. Most numbers have 15 places less
the digits before the point; very large and very small ones have a power of ten. -/
def magnitudeText (num den : Nat) : List Char :=
  if den * tenTo 9 < num || num * tenTo 5 < den then scientificText num den
  else
    let power := leadingPower num den
    let places : Int := if 0 < power then 14 - power
      else if power < 0 then 15 - (power + 1) else 15
    withoutEndZeros (fixedText num den places.toNat)

def numberText (x : Double) : String :=
  match x with
  | .nan => "NaN"
  | .infinite negative => if negative then "-Infinity" else "Infinity"
  | .finite negative mantissa exponent =>
    let (num, den) := Double.magnitude mantissa exponent
    if mantissa = 0 then "0"
    else
      let body := if num % den = 0 && num / den < twoTo 31 - 1 then digitsOf (num / den)
        else magnitudeText num den
      String.ofList (if negative then '-' :: body else body)

end Intake.XPath
