import Intake.Number.Decimal

/-! Days, times of day and their combination, in the Gregorian calendar extended to the years 1 to
9999. Days are counted from the first of January of the year 1, which has the count 0. The days of the
week and the months have English names, in full and in three letters. -/

namespace Intake.Calendar

/-- The days of the week, Monday first. -/
def weekdayNames : List String :=
  ["Monday", "Tuesday", "Wednesday", "Thursday", "Friday", "Saturday", "Sunday"]

/-- The months, January first. -/
def monthNames : List String :=
  ["January", "February", "March", "April", "May", "June", "July", "August", "September",
    "October", "November", "December"]

/-- The first three letters of a name. -/
def shortName (name : String) : String := String.ofList (name.toList.take 3)

def isLeap (year : Nat) : Bool := year % 4 == 0 && (year % 100 != 0 || year % 400 == 0)

/-- The days of a month; no month outside 1 to 12 has any. -/
def daysInMonth (year month : Nat) : Nat :=
  match month with
  | 1 | 3 | 5 | 7 | 8 | 10 | 12 => 31
  | 4 | 6 | 9 | 11 => 30
  | 2 => if isLeap year then 29 else 28
  | _ => 0

/-- The days of a year. -/
def daysInYear (year : Nat) : Nat := if isLeap year then 366 else 365

/-- The days from the beginning of the count to the beginning of a year. -/
def daysBeforeYear (year : Nat) : Nat :=
  let past := year - 1
  past * 365 + past / 4 - past / 100 + past / 400

/-- The days from the beginning of a year to the beginning of a month. -/
def daysBeforeMonth (year month : Nat) : Nat :=
  (List.range (month - 1)).foldl (fun days m => days + daysInMonth year (m + 1)) 0

/-- A day of the years 1 to 9999. -/
structure Date where
  year : Nat
  month : Nat
  day : Nat
  valid : (1 ≤ year ∧ year ≤ 9999) ∧ (1 ≤ month ∧ month ≤ 12) ∧ 1 ≤ day ∧
    day ≤ daysInMonth year month
  deriving DecidableEq, Repr

namespace Date

def ofParts? (year month day : Nat) : Option Date :=
  if h : (1 ≤ year ∧ year ≤ 9999) ∧ (1 ≤ month ∧ month ≤ 12) ∧ 1 ≤ day ∧
      day ≤ daysInMonth year month then
    some ⟨year, month, day, h⟩
  else none

instance : Inhabited Date := ⟨⟨1, 1, 1, by decide⟩⟩

/-- The days before this one. -/
def count (d : Date) : Nat :=
  daysBeforeYear d.year + daysBeforeMonth d.year d.month + (d.day - 1)

/-- The year that the day with a count lies in. -/
def yearOfCount (n : Nat) : Nat :=
  let guess := n * 400 / 146097 + 1
  if daysBeforeYear (guess + 1) ≤ n then guess + 1
  else if daysBeforeYear guess ≤ n then guess
  else guess - 1

/-- The day with a count, if it lies in the years 1 to 9999. -/
def ofCount? (n : Int) : Option Date :=
  if n < 0 then none
  else
    let n := n.toNat
    let year := yearOfCount n
    let rest := n - daysBeforeYear year
    let month := ((List.range 12).reverse.find? fun m => daysBeforeMonth year (m + 1) ≤ rest).map
      (· + 1)
    match month with
    | none => none
    | some month => ofParts? year month (rest - daysBeforeMonth year month + 1)

/-- The day `n` days later, or earlier if `n` is negative. -/
def addDays? (d : Date) (n : Int) : Option Date := ofCount? (d.count + n)

/-- The day of the week, Monday being 0. -/
def weekday (d : Date) : Nat := d.count % 7

/-- The number of the day in its year, the first being 1. -/
def dayOfYear (d : Date) : Nat := daysBeforeMonth d.year d.month + d.day

/-- The Monday that opens the first week of a year: the week that holds the fourth of January. -/
def firstMonday (year : Nat) : Int :=
  let fourth : Int := daysBeforeYear year + 3
  fourth - fourth % 7

/-- The year and number of the week that the day lies in, weeks beginning on Mondays. -/
def week (d : Date) : Nat × Nat :=
  let n : Int := d.count
  let year :=
    if n < firstMonday d.year then d.year - 1
    else if firstMonday (d.year + 1) ≤ n then d.year + 1
    else d.year
  (year, ((n - firstMonday year) / 7).toNat + 1)

end Date

/-- A time of day to the microsecond. -/
structure Clock where
  hour : Nat
  minute : Nat
  second : Nat
  microsecond : Nat
  valid : hour < 24 ∧ minute < 60 ∧ second < 60 ∧ microsecond < 1000000
  deriving DecidableEq, Repr

namespace Clock

def ofParts? (hour minute second microsecond : Nat) : Option Clock :=
  if h : hour < 24 ∧ minute < 60 ∧ second < 60 ∧ microsecond < 1000000 then
    some ⟨hour, minute, second, microsecond, h⟩
  else none

def midnight : Clock := ⟨0, 0, 0, 0, by decide⟩

instance : Inhabited Clock := ⟨midnight⟩

/-- The microseconds since midnight. -/
def count (c : Clock) : Nat :=
  ((c.hour * 60 + c.minute) * 60 + c.second) * 1000000 + c.microsecond

/-- The time without its microseconds. -/
def wholeSeconds (c : Clock) : Clock :=
  ⟨c.hour, c.minute, c.second, 0, c.valid.1, c.valid.2.1, c.valid.2.2.1, by decide⟩

end Clock

/-- A day and a time of it. -/
structure DateTime where
  date : Date
  clock : Clock
  deriving DecidableEq, Repr, Inhabited

namespace DateTime

def ofParts? (year month day hour minute second microsecond : Nat) : Option DateTime :=
  match Date.ofParts? year month day, Clock.ofParts? hour minute second microsecond with
  | some date, some clock => some ⟨date, clock⟩
  | _, _ => none

/-- The microseconds of a day. -/
def dayLength : Nat := 86400000000

/-- The microseconds since the beginning of the count. -/
def count (t : DateTime) : Nat := t.date.count * dayLength + t.clock.count

/-- The moment with a count of microseconds, if it lies in the years 1 to 9999. -/
def ofCount? (n : Int) : Option DateTime :=
  match Date.ofCount? (n / dayLength) with
  | none => none
  | some date =>
    let rest := (n % dayLength).toNat
    let seconds := rest / 1000000
    (Clock.ofParts? (seconds / 3600) (seconds / 60 % 60) (seconds % 60) (rest % 1000000)).map
      fun clock => ⟨date, clock⟩

/-- The moment `n` microseconds later. -/
def add? (t : DateTime) (n : Int) : Option DateTime := ofCount? (t.count + n)

def wholeSeconds (t : DateTime) : DateTime := ⟨t.date, t.clock.wholeSeconds⟩

end DateTime

/-- A number in at least `width` digits. -/
def padded (width n : Nat) : List Char :=
  let digits := Number.digitsOf n
  List.replicate (width - digits.length) '0' ++ digits

/-- Year, month and day, with dashes between them. -/
def Date.iso (d : Date) : String :=
  String.ofList (padded 4 d.year ++ '-' :: padded 2 d.month ++ '-' :: padded 2 d.day)

/-- Hour, minute and second, with colons between them, and the microseconds unless there are
none. -/
def Clock.iso (c : Clock) : String :=
  String.ofList (padded 2 c.hour ++ ':' :: padded 2 c.minute ++ ':' :: padded 2 c.second ++
    if c.microsecond = 0 then [] else '.' :: padded 6 c.microsecond)

/-- Date and time with `T` between them. -/
def DateTime.iso (t : DateTime) : String := t.date.iso ++ "T" ++ t.clock.iso

/-- A distance from universal time as it is written behind a time; `microseconds` counts it. -/
def offsetText (microseconds : Int) : String :=
  let n := microseconds.natAbs
  let seconds := n / 1000000
  let tail :=
    if n % 60000000 = 0 then []
    else ':' :: padded 2 (seconds % 60) ++
      if n % 1000000 = 0 then [] else '.' :: padded 6 (n % 1000000)
  String.ofList ((if microseconds < 0 then '-' else '+') :: padded 2 (seconds / 3600) ++
    ':' :: padded 2 (seconds / 60 % 60) ++ tail)

end Intake.Calendar
