/-! Decimal numbers as they are written: a sign, the digits read as one number, and a power of ten.
Two writings of one value, such as 1.5 and 1.50, are different decimals. -/

namespace Intake.Number

def twoTo (n : Nat) : Nat := Nat.pow 2 n

def tenTo (n : Nat) : Nat := Nat.pow 10 n

/-- The number `coefficient * 10 ^ exponent`, negated if `negative`. Zero has a sign too. -/
structure Decimal where
  negative : Bool
  coefficient : Nat
  exponent : Int
  deriving DecidableEq, Repr, Inhabited

/-- The decimal digits of a number, the most significant first. -/
def digitsOf (n : Nat) : List Char := Nat.toDigits 10 n

namespace Decimal

def ofNat (n : Nat) : Decimal := ⟨false, n, 0⟩

def ofInt (n : Int) : Decimal := ⟨n < 0, n.natAbs, 0⟩

/-- How many digits the coefficient has; zero has one. -/
def digitCount (d : Decimal) : Nat := (digitsOf d.coefficient).length

def signText (d : Decimal) : List Char := if d.negative then ['-'] else []

/-- The digits with a point in front of the last `places` of them, filled up with zeros so that
one digit at least stands before the point. -/
def pointed (digits : List Char) (places : Nat) : List Char :=
  let filled := List.replicate (places + 1 - digits.length) '0' ++ digits
  let whole := filled.take (filled.length - places)
  if places = 0 then whole else whole ++ '.' :: filled.drop (filled.length - places)

/-- The number without a power of ten. -/
def plain (d : Decimal) : String :=
  let digits := digitsOf d.coefficient
  let body :=
    if d.exponent ≤ 0 then pointed digits d.exponent.natAbs
    else if d.coefficient = 0 then ['0']
    else digits ++ List.replicate d.exponent.toNat '0'
  String.ofList (d.signText ++ body)

/-- The power of ten of the first digit. -/
def adjusted (d : Decimal) : Int := d.exponent + d.digitCount - 1

/-- The number as it is shown: without a power of ten if it has no digits to invent and at most
five zeros behind the point, otherwise with one digit before the point and the power behind. -/
def shown (d : Decimal) : String :=
  let digits := digitsOf d.coefficient
  if d.exponent ≤ 0 && -6 ≤ d.adjusted then
    String.ofList (d.signText ++ pointed digits d.exponent.natAbs)
  else
    let power := (if d.adjusted < 0 then '-' else '+') :: digitsOf d.adjusted.natAbs
    String.ofList (d.signText ++ pointed digits (digits.length - 1) ++ 'E' :: power)

/-- The whole part, the sign included. -/
def truncated (d : Decimal) : Int :=
  let magnitude :=
    if 0 ≤ d.exponent then d.coefficient * tenTo d.exponent.toNat
    else d.coefficient / tenTo d.exponent.natAbs
  if d.negative then -(magnitude : Int) else magnitude

/-- The value as a quotient of natural numbers, the sign left aside. -/
def ratio (d : Decimal) : Nat × Nat :=
  if 0 ≤ d.exponent then (d.coefficient * tenTo d.exponent.toNat, 1)
  else (d.coefficient, tenTo d.exponent.natAbs)

end Decimal

end Intake.Number
