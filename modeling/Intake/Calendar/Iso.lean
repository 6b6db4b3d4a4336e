import Intake.Fault
import Intake.Calendar.LayoutReader

/-! Moments in the international notation: a date by month and day, by week and day, or by the day
of the year, and behind any one character a time, which a distance from universal time may follow.
Dashes and colons are used throughout or not at all. The text is ASCII; where digits are expected,
a number may also have a sign or blanks within the places it takes. -/

namespace Intake.Calendar.Iso

/-- What reading a part gives: a fault, nothing, or a value. -/
abbrev Outcome (α : Type) := Except Fault (Option α)

/-- Year, month and day before their ranges are checked. -/
abbrev DayParts := Int × Int × Int

/-- A number in the first `width` places of a text. -/
def number? (width : Nat) (s : List Char) : Option Int := Number.count? (s.take width)

/-- Year, month and day, or a year alone, or a year and a month with a dash. -/
def calendarDay? (s : List Char) : Option (DayParts × List Char) :=
  if s.length < 4 then none
  else
    match number? 4 s, s.drop 4 with
    | none, _ => none
    | some year, [] => some ((year, 1, 1), [])
    | some year, c :: rest =>
      let dashed := c = '-'
      let rest := if dashed then rest else c :: rest
      if rest.length < 2 then none
      else
        match number? 2 rest, rest.drop 2 with
        | none, _ => none
        | some month, [] => if dashed then some ((year, month, 1), []) else none
        | some month, c :: more =>
          if dashed && c != '-' then none
          else
            let more := if dashed then more else c :: more
            if more.length < 2 then none
            else (number? 2 more).map fun day => ((year, month, day), more.drop 2)

def dayParts (d : Date) : DayParts := (d.year, d.month, d.day)

def year? (year : Int) : Option Nat := if 1 ≤ year ∧ year ≤ 9999 then some year.toNat else none

/-- The day of a week, both counted from 1. -/
def weekDay (year week day : Int) : Outcome DayParts :=
  if week ≤ 0 || 54 ≤ week || day ≤ 0 || 8 ≤ day then .ok none
  else
    match year? year with
    | none => .ok none
    | some year =>
      match Date.ofCount? (Date.firstMonday year + (week - 1) * 7 + (day - 1)) with
      | some d => .ok (some (dayParts d))
      | none => .error .outOfRange

/-- The `n`-th day of a year. -/
def ordinalDay? (year n : Int) : Option DayParts :=
  match year? year with
  | none => none
  | some year =>
    if n < 1 || (daysInYear year : Int) < n then none
    else (Layout.ofDayOfYear? year n).map dayParts

/-- A year with a week, or with the number of a day. -/
def otherDay (s : List Char) : Outcome (DayParts × List Char) :=
  if s.length < 4 then .ok none
  else
    match number? 4 s with
    | none => .ok none
    | some year =>
      let dashed := (s.drop 4).head? == some '-'
      let rest := if dashed then s.drop 5 else s.drop 4
      match rest with
      | 'W' :: rest =>
        match number? 2 rest with
        | none => .ok none
        | some week =>
          match rest.drop 2 with
          | [] => (weekDay year week 1).map fun day => day.map fun d => (d, [])
          | c :: more =>
            if (c == '-') != dashed then .ok none
            else
              let more := if dashed then more else c :: more
              match number? 1 more with
              | none => .ok none
              | some day => (weekDay year week day).map fun d => d.map fun d => (d, more.drop 1)
      | rest =>
        if rest.length < 3 then .ok none
        else
          match number? 3 rest with
          | none => .ok none
          | some n => .ok ((ordinalDay? year n).map fun d => (d, rest.drop 3))

/-- A day in any notation, and what follows it. -/
def day (s : List Char) : Outcome (DayParts × List Char) :=
  match calendarDay? s with
  | some found => .ok (some found)
  | none => otherDay s

/-- The minutes of a distance from universal time. -/
def offsetMinutes? (s : List Char) : Option Int :=
  if s = ['Z'] || s = ['z'] then some 0
  else if s.length != 3 && s.length != 5 && s.length != 6 then none
  else
    let sign : Option Int :=
      match s.head? with
      | some '-' => some (-1)
      | some '+' => some 1
      | _ => none
    let minutes :=
      if s.length = 3 then some 0
      else Number.count? (if s[3]? == some ':' then s.drop 4 else s.drop 3)
    match sign, number? 2 (s.drop 1), minutes with
    | some sign, some hours, some minutes =>
      if 59 < minutes || 23 < hours then none else some (sign * (hours * 60 + minutes))
    | _, _, _ => none

/-- The parts of a time before their ranges are checked. -/
structure TimeParts where
  hour : Int := 0
  minute : Int := 0
  second : Int := 0
  microsecond : Nat := 0
  offset : Option Int := none
  deriving DecidableEq, Repr

/-- The digits behind a point or comma as microseconds, digits after the sixth left out. -/
def fraction? : List Char → Option (Nat × List Char)
  | [] => none
  | c :: rest =>
    let digits := rest.takeWhile Char.isDigit
    if (c = '.' || c = ',') && !digits.isEmpty then
      let kept := digits.take 6
      (Number.digitsValue? (kept ++ List.replicate (6 - kept.length) '0')).map fun n =>
        (n, rest.dropWhile Char.isDigit)
    else none

/-- The parts of a time from the place `place` on: hour, minute, second, fraction, and two more at
which only a distance from universal time can stand. -/
def timeFrom (colons : Bool) (p : TimeParts) (place : Nat) : Nat → List Char → Option TimeParts
  | _, [] => some p
  | 0, _ => none
  | left + 1, c :: rest =>
    if c = '-' || c = '+' || c = 'Z' || c = 'z' then
      (offsetMinutes? (c :: rest)).map fun n => { p with offset := some n }
    else
      let next (colons : Bool) (s : List Char) : Option TimeParts :=
        if place < 3 then
          match if s.length < 2 then none else number? 2 s with
          | none => none
          | some n =>
            let p :=
              if place = 0 then { p with hour := n }
              else if place = 1 then { p with minute := n }
              else { p with second := n }
            timeFrom colons p (place + 1) left (s.drop 2)
        else if place = 3 then
          match fraction? s with
          | some (n, rest) => timeFrom colons { p with microsecond := n } 4 left rest
          | none => timeFrom colons p 4 left s
        else timeFrom colons p (place + 1) left s
      if place = 1 && c = ':' then next true rest
      else if place = 2 && colons then if c = ':' then next colons rest else none
      else next colons (c :: rest)

/-- The parts of a time; 24 is the end of the day and admits no parts but zero. -/
def time? (s : List Char) : Option TimeParts :=
  if s.length < 2 then none
  else
    (timeFrom false {} 0 6 s).filter fun p =>
      p.hour != 24 || (p.minute == 0 && p.second == 0 && p.microsecond == 0)

/-- A whole number as a natural number, if it is one. -/
def natural? (n : Int) : Option Nat := if n < 0 then none else some n.toNat

def moment? (day : DayParts) (p : TimeParts) : Option DateTime :=
  match natural? day.1, natural? day.2.1, natural? day.2.2, natural? p.hour, natural? p.minute,
    natural? p.second with
  | some year, some month, some day, some hour, some minute, some second =>
    DateTime.ofParts? year month day hour minute second p.microsecond
  | _, _, _, _, _, _ => none

/-- Reads a moment; 24 o'clock belongs to the next day. -/
def read (s : List Char) : Outcome Reading :=
  if s.any fun c => 128 ≤ c.val then .ok none
  else
    match day s with
    | .error fault => .error fault
    | .ok none => .ok none
    | .ok (some (parts, rest)) =>
      let time := match rest with
        | [] => some ({} : TimeParts)
        | _ :: rest => time? rest
      match time with
      | none => .ok none
      | some p =>
        let offset := p.offset.map (· * 60000000)
        if p.hour = 24 then
          match moment? parts { p with hour := 0 } with
          | none => .ok none
          | some t =>
            match t.add? DateTime.dayLength with
            | none => .error .outOfRange
            | some t => .ok (some ⟨t, offset⟩)
        else .ok ((moment? parts p).map fun t => ⟨t, offset⟩)

end Intake.Calendar.Iso
