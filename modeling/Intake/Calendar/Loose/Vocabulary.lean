import Intake.Calendar.Loose.Token
import Intake.Calendar.Date
import Intake.Text.Case

/-! The words of a loosely written moment: names of days and months, units of time, halves of the
day, zones that mean universal time, and words that are passed over. -/

namespace Intake.Calendar.Loose

/-- A unit of the time of day. -/
inductive TimeUnit where
  | hour | minute | second
  deriving DecidableEq, Repr

/-- The unit below. -/
def TimeUnit.below? : TimeUnit → Option TimeUnit
  | hour => some minute
  | minute => some second
  | second => none

namespace Token

/-- A token in small letters. -/
def small (t : Token) : String := String.ofList (Text.lowered t)

/-- Whether a token may be passed over. -/
def isFiller (t : Token) : Bool :=
  [" ", ".", ",", ";", "-", "/", "'", "at", "on", "and", "ad", "m", "t", "of", "st", "nd", "rd",
    "th"].contains t.small

/-- The day of the week that a token names, Monday being 0. -/
def weekday? (t : Token) : Option Nat :=
  weekdayNames.findIdx? fun name =>
    t.small == Text.lower name || t.small == Text.lower (shortName name)

/-- The month that a token names, January being 1. -/
def month? (t : Token) : Option Nat :=
  if t.small = "sept" then some 9
  else
    (monthNames.findIdx? fun name =>
      t.small == Text.lower name || t.small == Text.lower (shortName name)).map (· + 1)

def unit? (t : Token) : Option TimeUnit :=
  if ["h", "hour", "hours"].contains t.small then some .hour
  else if ["m", "minute", "minutes"].contains t.small then some .minute
  else if ["s", "second", "seconds"].contains t.small then some .second
  else none

/-- Whether a token names the second half of the day; `none` if it names neither. -/
def afternoon? (t : Token) : Option Bool :=
  if ["am", "a"].contains t.small then some false
  else if ["pm", "p"].contains t.small then some true
  else none

/-- Whether a token ties a month to what follows. -/
def isOf (t : Token) : Bool := t.small == "of"

def isUniversal (t : Token) : Bool := ["utc", "gmt", "z"].contains t.small

/-- Whether a token has the form of a zone's name. -/
def isZoneLike (t : Token) : Bool :=
  t.length ≤ 5 && (t.all (fun c => 'A' ≤ c && c ≤ 'Z') || t == ['z'])

/-- Whether a token is read as a number: digits, or a word for a number that is not finite. -/
def isNumeric (t : Token) : Bool :=
  t.number?.isSome || ["inf", "infinity", "nan"].contains t.small

end Token

end Intake.Calendar.Loose
