import Intake.Number.Shortest

/-! Arithmetic on doubles: the exact result is rounded to the nearest double. What is not a number
makes everything that is computed from it no number either, and differs from itself. -/

namespace Intake.Number.Double

/-- Zero. -/
def naught : Double := .finite false 0 (-1074)

/-- The nearest double to a whole number. -/
def ofInt (n : Int) : Double := nearest (n < 0) n.natAbs 1

/-- The magnitude of `mantissa * 2 ^ exponent` as a quotient. -/
def magnitude (mantissa : Nat) (exponent : Int) : Nat × Nat := scaled mantissa 1 exponent

/-- The nearest double to a quotient with a sign; a zero that is computed is positive. -/
def ofQuotient (num : Int) (den : Nat) : Double := nearest (num < 0) num.natAbs den

/-- The numerator, with its sign, of a finite double over the denominator of its magnitude. -/
def signed (negative : Bool) (n : Nat) : Int := if negative then -(n : Int) else n

def neg : Double → Double
  | nan => nan
  | infinite negative => .infinite !negative
  | finite negative mantissa exponent => .finite (!negative) mantissa exponent

def add : Double → Double → Double
  | nan, _ => nan
  | _, nan => nan
  | infinite a, infinite b => if a = b then .infinite a else nan
  | infinite a, finite .. => .infinite a
  | finite .., infinite b => .infinite b
  | finite s m e, finite t k f =>
    let (n, d) := magnitude m e
    let (p, q) := magnitude k f
    if m = 0 && k = 0 then .finite (s && t) 0 (-1074)
    else ofQuotient (signed s (n * q) + signed t (p * d)) (d * q)

def sub (x y : Double) : Double := add x (neg y)

def mul : Double → Double → Double
  | nan, _ => nan
  | _, nan => nan
  | infinite a, infinite b => .infinite (a != b)
  | infinite a, finite b m _ => if m = 0 then nan else .infinite (a != b)
  | finite a m _, infinite b => if m = 0 then nan else .infinite (a != b)
  | finite s m e, finite t k f =>
    let (n, d) := magnitude m e
    let (p, q) := magnitude k f
    nearest (s != t) (n * p) (d * q)

def div : Double → Double → Double
  | nan, _ => nan
  | _, nan => nan
  | infinite _, infinite _ => nan
  | infinite a, finite b _ _ => .infinite (a != b)
  | finite a _ _, infinite b => .finite (a != b) 0 (-1074)
  | finite s m e, finite t k f =>
    if k = 0 then if m = 0 then nan else .infinite (s != t)
    else
      let (n, d) := magnitude m e
      let (p, q) := magnitude k f
      nearest (s != t) (n * q) (d * p)

/-- What is left of the first number when the second is taken from it as often as possible; it has
the sign of the first. -/
def rem : Double → Double → Double
  | nan, _ => nan
  | _, nan => nan
  | infinite _, _ => nan
  | x, infinite _ => x
  | finite s m e, finite _ k f =>
    if k = 0 then nan
    else
      let (n, d) := magnitude m e
      let (p, q) := magnitude k f
      nearest s (n * q % (p * d)) (d * q)

/-- The greatest whole number that is not above. -/
def floor : Double → Double
  | finite s m e =>
    let (n, d) := magnitude m e
    if n % d = 0 then .finite s m e
    else ofInt (signed s n / d)
  | x => x

/-- The least whole number that is not below. -/
def ceiling (x : Double) : Double := neg (floor (neg x))

/-- Whether one number is less than another. -/
def isLess : Double → Double → Bool
  | nan, _ => false
  | _, nan => false
  | infinite a, infinite b => a && !b
  | infinite a, finite .. => a
  | finite .., infinite b => !b
  | finite s m e, finite t k f =>
    let (n, d) := magnitude m e
    let (p, q) := magnitude k f
    signed s (n * q) < signed t (p * d)

/-- Whether two numbers are the same number. -/
def isSame : Double → Double → Bool
  | nan, _ => false
  | _, nan => false
  | infinite a, infinite b => a == b
  | infinite _, finite .. => false
  | finite .., infinite _ => false
  | finite s m e, finite t k f =>
    let (n, d) := magnitude m e
    let (p, q) := magnitude k f
    signed s (n * q) == signed t (p * d)

/-- The whole number that a double is, if it is one. -/
def whole? : Double → Option Int
  | finite s m e =>
    let (n, d) := magnitude m e
    if n % d = 0 then some (signed s (n / d)) else none
  | _ => none

/-- The nearest double to a power of ten. -/
def powerOfTen (n : Int) : Double :=
  if 400 < n then .infinite false
  else if n < -400 then naught
  else if 0 ≤ n then nearest false (tenTo n.toNat) 1
  else nearest false 1 (tenTo n.natAbs)

end Intake.Number.Double
