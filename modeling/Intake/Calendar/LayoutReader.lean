import Intake.Calendar.Date
import Intake.Calendar.Layout
import Intake.Number.Reader

/-! The moment that the fields of a layout denote. Where a year, a month or a day is missing, it is
1900, January or the first; a day of the year, or a week and a day of it, fixes the day instead. Of
two fields that say the same thing the later one counts. -/

namespace Intake.Calendar

/-- A moment, and its distance from universal time in microseconds if one was written. -/
structure Reading where
  moment : DateTime
  offset : Option Int
  deriving DecidableEq, Repr

namespace Layout

/-- What the fields read so far say. -/
structure Parts where
  year : Option Nat := none
  month : Nat := 1
  day : Nat := 1
  hour : Nat := 0
  minute : Nat := 0
  second : Nat := 0
  microsecond : Nat := 0
  dayOfYear : Option Nat := none
  weekday : Option Nat := none
  week : Option (Nat × Bool) := none
  weekYear : Option Nat := none
  weekNumber : Option Nat := none
  offset : Option Int := none
  deriving DecidableEq, Repr

/-- The place of a name in a list of names, the case left aside. -/
def place? (names : List String) (found : List Char) : Option Nat :=
  names.findIdx? fun name => name.toList.map Char.toLower == found.map Char.toLower

/-- The hour of the day for an hour on the dial. -/
def hourOfDial (afternoon : Bool) (hour : Nat) : Nat :=
  if afternoon then if hour = 12 then 12 else hour + 12
  else if hour = 12 then 0 else hour

/-- The microseconds that a written distance from universal time denotes; colons must be used
throughout or not at all. -/
def offsetValue? (s : List Char) : Option Int :=
  if s = ['Z'] then some 0
  else
    let negative := s.head? == some '-'
    let body := s.drop 1
    let colons := body[2]? == some ':'
    let compact := if colons then body.take 2 ++ body.drop 3 else body
    if colons && 4 < compact.length && compact[4]? != some ':' then none
    else
      let compact :=
        if colons && 4 < compact.length then compact.take 4 ++ compact.drop 5 else compact
      let value (start count : Nat) : Option Nat :=
        match (compact.drop start).take count with
        | [] => some 0
        | digits => Number.digitsValue? digits
      let fraction := compact.drop 7
      match value 0 2, value 2 2, value 4 2,
        Number.digitsValue? (fraction ++ List.replicate (6 - fraction.length) '0') with
      | some hours, some minutes, some seconds, some micros =>
        let n : Int := (((hours * 60 + minutes) * 60 + seconds) * 1000000 + micros : Nat)
        some (if negative then -n else n)
      | _, _, _, _ => none

/-- The parts with one more field. -/
def addField (all : List Found) (p : Parts) (found : Found) : Option Parts :=
  let (field, text) := found
  let number (use : Nat → Parts) : Option Parts := (Number.digitsValue? text).map use
  let name (names : List String) (use : Nat → Parts) : Option Parts := (place? names text).map use
  match field with
  | .dayOfMonth =>
    (Number.digitsValue? (text.filter (· != ' '))).map fun n => { p with day := n }
  | .month => number fun n => { p with month := n }
  | .shortYear => number fun n => { p with year := some (if n ≤ 68 then n + 2000 else n + 1900) }
  | .year => number fun n => { p with year := some n }
  | .dayOfYear => number fun n => { p with dayOfYear := some n }
  | .hour => number fun n => { p with hour := n }
  | .dialHour =>
    let afternoon := (all.lookup .halfDay).any fun half => half.map Char.toLower == ['p', 'm']
    number fun n => { p with hour := hourOfDial afternoon n }
  | .minute => number fun n => { p with minute := n }
  | .second => number fun n => { p with second := n }
  | .fraction =>
    (Number.digitsValue? (text ++ List.replicate (6 - text.length) '0')).map fun n =>
      { p with microsecond := n }
  | .halfDay | .zone => some p
  | .weekdayName => name weekdayNames fun n => { p with weekday := some n }
  | .shortWeekdayName => name (weekdayNames.map shortName) fun n => { p with weekday := some n }
  | .monthName => name monthNames fun n => { p with month := n + 1 }
  | .shortMonthName => name (monthNames.map shortName) fun n => { p with month := n + 1 }
  | .weekdayFromSunday => number fun n => { p with weekday := some ((n + 6) % 7) }
  | .weekdayFromMonday => number fun n => { p with weekday := some (n - 1) }
  | .sundayWeek => number fun n => { p with week := some (n, false) }
  | .mondayWeek => number fun n => { p with week := some (n, true) }
  | .weekYear => number fun n => { p with weekYear := some n }
  | .weekNumber => number fun n => { p with weekNumber := some n }
  | .offset => (offsetValue? text).map fun n => { p with offset := some n }

/-- The number in its year of a day given by a week and a day of it; not positive for a day of the
year before. -/
def dayOfWeek (newYear : Nat) (week : Nat) (fromMonday : Bool) (weekday : Nat) : Int :=
  let (newYear, weekday) :=
    if fromMonday then (newYear, weekday) else ((newYear + 1) % 7, (weekday + 1) % 7)
  if week = 0 then 1 + (weekday : Int) - newYear
  else 1 + (((7 - newYear) % 7 + 7 * (week - 1) + weekday : Nat) : Int)

/-- The day of a week of a year whose weeks begin on Mondays, the first one holding the fourth of
January. The weeks before the first and after the last go on into the neighbouring years. -/
def ofWeek? (year week weekday : Nat) : Option Date :=
  if year = 0 || 9999 < year then none
  else Date.ofCount? (Date.firstMonday year + 7 * ((week : Int) - 1) + weekday)

/-- The `n`-th day of a year, or one of its neighbours. -/
def ofDayOfYear? (year : Nat) (n : Int) : Option Date :=
  match Date.ofParts? year 1 1 with
  | some first => first.addDays? (n - 1)
  | none => none

/-- The day that a week of the calendar year denotes, weeks being counted from the first Sunday or
Monday. -/
def ofCalendarWeek? (year week : Nat) (fromMonday : Bool) (weekday : Nat) : Option Date :=
  match Date.ofParts? year 1 1 with
  | none => none
  | some first =>
    let n := dayOfWeek first.weekday week fromMonday weekday
    if n ≤ 0 then ofDayOfYear? (year - 1) (n + daysInYear (year - 1)) else ofDayOfYear? year n

/-- Whether the parts go together: a year of weeks needs the number of a week and a day of it and
admits no day of the year, and the number of a week needs a year of weeks. -/
def coherent (p : Parts) : Bool :=
  if p.weekYear.isSome then p.dayOfYear.isNone && p.weekNumber.isSome && p.weekday.isSome
  else p.weekNumber.isNone

/-- The day that the parts denote. -/
def day? (p : Parts) : Option Date :=
  let year := p.year.getD 1900
  if !coherent p then none
  else
    match p.dayOfYear, p.weekday, p.week, p.weekYear, p.weekNumber with
    | some n, _, _, _, _ => ofDayOfYear? year n
    | none, some weekday, some (week, fromMonday), _, _ =>
      ofCalendarWeek? year week fromMonday weekday
    | none, some weekday, none, some weekYear, some week => ofWeek? weekYear week weekday
    | _, _, _, _, _ => Date.ofParts? year p.month p.day

def reading? (found : List Found) : Option Reading :=
  match found.foldlM (addField found) {} with
  | none => none
  | some p =>
    match day? p, Clock.ofParts? p.hour p.minute p.second p.microsecond with
    | some date, some clock =>
      match p.offset with
      | none => some ⟨⟨date, clock⟩, none⟩
      | some n => if n.natAbs < 86400000000 then some ⟨⟨date, clock⟩, some n⟩ else none
    | _, _ => none

end Layout

/-- Reads a moment that is written in a layout. -/
def Layout.read? (l : Layout) (s : List Char) : Option Reading :=
  (l.fields? s).bind Layout.reading?

end Intake.Calendar
