import Intake.Calendar.Date
import Intake.Calendar.Loose.Token

/-! The numbers of a loosely written day, in the order in which they stand, and how they are told
apart: a number of more than two digits or above 100 is the year, a name fixes the month, and what
is left open follows from the size of the numbers, the month standing before the day if both could
be either. -/

namespace Intake.Calendar.Loose

/-- What a number is known to be. -/
inductive Role where
  | year | month | day
  deriving DecidableEq, Repr

/-- The numbers of a day so far. The places say which of them has a known role; a number of more
than two digits makes the century known. -/
structure DayParts where
  numbers : List Nat := []
  yearAt : Option Nat := none
  monthAt : Option Nat := none
  dayAt : Option Nat := none
  centuryKnown : Bool := false
  deriving DecidableEq, Repr

namespace DayParts

/-- Adds a number; a long one is the year. `none` if its role is taken. -/
def add? (p : DayParts) (n : Nat) (long : Bool) (role : Option Role) : Option DayParts :=
  if long && role != none && role != some .year then none
  else
    let place := p.numbers.length
    let added :=
      { p with numbers := p.numbers ++ [n], centuryKnown := p.centuryKnown || long }
    match if long then some Role.year else role with
    | none => some added
    | some .year => if p.yearAt.isSome then none else some { added with yearAt := some place }
    | some .month => if p.monthAt.isSome then none else some { added with monthAt := some place }
    | some .day => if p.dayAt.isSome then none else some { added with dayAt := some place }

/-- Adds the number that a token of digits writes. -/
def addToken? (p : DayParts) (t : Token) (role : Option Role) : Option DayParts :=
  let long := t.isDigits && 2 < t.length
  match t.whole? with
  | some n => p.add? n long role
  | none => none

/-- Adds the whole part of a number. -/
def addNumber? (p : DayParts) (value : Number.Decimal) : Option DayParts :=
  let (num, den) := value.ratio
  p.add? (num / den) (100 * den < num) none

def at? (p : DayParts) (place : Option Nat) : Option Nat := place.bind (p.numbers[·]?)

/-- Whether a number could be the day. `none` if the month that is known is none. -/
def couldBeDay? (p : DayParts) (value : Number.Decimal) : Option Bool :=
  let within (last : Nat) : Bool :=
    let (num, den) := value.ratio
    den ≤ num && num ≤ last * den
  if p.dayAt.isSome then some false
  else
    match p.at? p.monthAt with
    | none => some (within 31)
    | some month =>
      if month < 1 || 12 < month then none
      else some (within (daysInMonth ((p.at? p.yearAt).getD 2000) month))

/-- Year, month and day as far as they are known. -/
structure Resolved where
  year : Option Nat := none
  month : Option Nat := none
  day : Option Nat := none
  deriving DecidableEq, Repr

/-- The roles of the numbers when each of them, or all but one of three, has a known role. -/
def byRoles (p : DayParts) : Resolved :=
  let known := [p.yearAt, p.monthAt, p.dayAt].filterMap id
  let open_ := (List.range 3).find? fun n => !known.contains n
  let fill (place : Option Nat) : Option Nat :=
    if p.numbers.length = 3 && known.length = 2 then place.or open_ else place
  ⟨p.at? (fill p.yearAt), p.at? (fill p.monthAt), p.at? (fill p.dayAt)⟩

/-- The roles of one number, or of two of which one is a named month. -/
def ofOne (month : Option Nat) (other : Option Nat) : Resolved :=
  match other with
  | none => { month := month }
  | some n => if 31 < n then { year := some n, month } else { month, day := some n }

/-- The roles of two numbers. -/
def ofTwo (a b : Nat) : Resolved :=
  if 31 < a then { year := some a, month := some b }
  else if 31 < b then { month := some a, year := some b }
  else { month := some a, day := some b }

/-- The roles of three numbers, of which one may be a named month or the year. -/
def ofThree (monthAt yearAt : Option Nat) (a b c : Nat) : Resolved :=
  match monthAt with
  | some 0 => if 31 < b then ⟨some b, some a, some c⟩ else ⟨some c, some a, some b⟩
  | some 1 => if 31 < a then ⟨some a, some b, some c⟩ else ⟨some c, some b, some a⟩
  | some _ => if 31 < b then ⟨some b, some c, some a⟩ else ⟨some a, some c, some b⟩
  | none =>
    if 31 < a || yearAt = some 0 then ⟨some a, some b, some c⟩
    else if 12 < a then ⟨some c, some b, some a⟩
    else ⟨some c, some a, some b⟩

/-- The roles of all numbers; `none` if there are more than three. -/
def resolve? (p : DayParts) : Option Resolved :=
  let known := ([p.yearAt, p.monthAt, p.dayAt].filterMap id).length
  let size := p.numbers.length
  if (size = known && 0 < known) || (size = 3 && known = 2) then some p.byRoles
  else
    match p.numbers with
    | [] => some {}
    | [a] => some (if p.monthAt.isSome then ofOne (some a) none else ofOne none (some a))
    | [a, b] =>
      match p.monthAt with
      | some 0 => some (ofOne (some a) (some b))
      | some _ => some (ofOne (some b) (some a))
      | none => some (ofTwo a b)
    | [a, b, c] => some (ofThree p.monthAt p.yearAt a b c)
    | _ => none

end DayParts

end Intake.Calendar.Loose
