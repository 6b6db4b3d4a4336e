import Intake.Fault
import Intake.Calendar.LayoutReader
import Intake.Calendar.Loose.DayParts
import Intake.Calendar.Loose.Vocabulary
import Intake.Number.Rounding

/-! Loosely written moments: numbers, names of months and days, times with colons or units, halves
of the day and zones in nearly any order. What is not said is taken from a given day, at midnight;
two digits of a year are read as the year nearest to it. -/

namespace Intake.Calendar.Loose

/-- Why reading stops: the text is no moment, or a fault. -/
inductive Stop where
  | unreadable
  | fault (fault : Fault)
  deriving DecidableEq, Repr

/-- What has been found so far. A zone offset is in seconds. -/
structure Findings where
  parts : DayParts := {}
  weekday : Option Nat := none
  hour : Option Nat := none
  minute : Option Nat := none
  second : Option Nat := none
  microsecond : Option Nat := none
  afternoon : Option Bool := none
  zone : Option Token := none
  offset : Option Int := none
  deriving DecidableEq, Repr

/-- A step of reading. -/
abbrev Attempt (α : Type) := Except Stop α

/-- A value that must be there. -/
def required {α : Type} : Option α → Attempt α
  | some a => .ok a
  | none => .error .unreadable

/-- The token at a place, which must exist. -/
def tokenAt (tokens : Array Token) (i : Nat) : Attempt Token := required tokens[i]?

/-- The part of a number behind the point. -/
def fractionOf (value : Number.Decimal) : Attempt Number.Decimal :=
  match value.fraction? with
  | some d => .ok d
  | none => .error (.fault .indivisible)

/-- Whole minutes, and the seconds that a fraction of a minute gives. -/
def minutesAndSeconds (value : Number.Decimal) : Attempt (Nat × Option Nat) := do
  let fraction ← fractionOf value
  let seconds :=
    if fraction.coefficient = 0 then none else some fraction.sixtyfold.truncated.toNat
  return (value.truncated.toNat, seconds)

/-- Seconds and microseconds of a token, digits after the sixth left out. -/
def secondsAndMicros (t : Token) : Attempt (Nat × Nat) := do
  match Text.pieces '.' t with
  | [whole] => return (← required (Token.whole? whole), 0)
  | [whole, fraction] =>
    let kept := (fraction ++ List.replicate (6 - fraction.length) '0').take 6
    return (← required (Token.whole? whole), ← required (Token.whole? kept))
  | _ => .error .unreadable

/-- The hour of the day for an hour that may be on the dial. -/
def adjusted (hour : Nat) (afternoon : Bool) : Nat :=
  if hour < 12 && afternoon then hour + 12 else if hour = 12 && !afternoon then 0 else hour

/-- The unit that a number at place `i` is given in, and the place of the token that says so: the
next one, the one after a blank, or else the unit below that of the token before. -/
def unitOf (tokens : Array Token) (i : Nat) : Option (Nat × Option TimeUnit) :=
  let unitAt (j : Nat) : Option TimeUnit := tokens[j]?.bind Token.unit?
  match unitAt (i + 1) with
  | some unit => some (i + 1, some unit)
  | none =>
    match if tokens[i + 1]? == some [' '] then unitAt (i + 2) else none with
    | some unit => some (i + 2, some unit)
    | none =>
      match if 0 < i then unitAt (i - 1) else none with
      | some unit => some (i, unit.below?)
      | none =>
        if 1 < i && i + 1 = tokens.size && tokens[i - 1]? == some [' '] then
          (unitAt (i - 2)).map fun unit => (i, unit.below?)
        else none

/-- Takes a number as so many hours, minutes or seconds. -/
def withUnit (f : Findings) (t : Token) (value : Number.Decimal) :
    Option TimeUnit → Attempt Findings
  | some .hour => do
    let (_, fraction) ← minutesAndSeconds value
    return { f with hour := some value.truncated.toNat, minute := fraction.or f.minute }
  | some .minute => do
    let (minute, second) ← minutesAndSeconds value
    return { f with minute := some minute, second }
  | some .second => do
    let (second, micros) ← secondsAndMicros t
    return { f with second := some second, microsecond := some micros }
  | none => .ok f

/-- Takes a number with a colon behind it as the hour of a time. Gives the place of the last token
used. -/
def clockTime (tokens : Array Token) (i : Nat) (f : Findings) (value : Number.Decimal) :
    Attempt (Nat × Findings) := do
  let minuteToken ← tokenAt tokens (i + 2)
  let (minute, second) ← minutesAndSeconds (← required minuteToken.number?)
  let f := { f with hour := some value.truncated.toNat, minute := some minute, second }
  if i + 4 < tokens.size && tokens[i + 3]? == some [':'] then
    let (second, micros) ← secondsAndMicros (← tokenAt tokens (i + 4))
    return (i + 4, { f with second := some second, microsecond := some micros })
  else return (i + 2, f)

/-- Takes a number with a separator behind it as the first part of a day. -/
def separatedDay (tokens : Array Token) (i : Nat) (f : Findings) (t separator : Token) :
    Attempt (Nat × Findings) := do
  let parts ← required (f.parts.addToken? t none)
  match tokens[i + 2]? with
  | none => return (i + 1, { f with parts })
  | some second =>
    if second.isFiller then return (i + 1, { f with parts })
    else
      let parts ←
        if second.isDigits then required (parts.addToken? second none)
        else required (second.month?.bind fun n => parts.add? n false (some .month))
      if tokens[i + 3]? == some separator then
        let third ← tokenAt tokens (i + 4)
        let parts ← required <| match third.month? with
          | some n => parts.add? n false (some .month)
          | none => parts.addToken? third none
        return (i + 4, { f with parts })
      else return (i + 2, { f with parts })

/-- Takes a number; gives the place of the last token used. -/
def number (tokens : Array Token) (i : Nat) (f : Findings) (t : Token) :
    Attempt (Nat × Findings) := do
  let value ← required t.number?
  let size := t.length
  let next := tokens[i + 1]?
  let whole (start count : Nat) : Attempt Nat := required (Token.whole? ((t.drop start).take count))
  if f.parts.numbers.length = 3 && (size = 2 || size = 4) && f.hour.isNone &&
      next.all (fun n => n == [' '] || (Token.unit? n).isSome) then
    let hour ← whole 0 2
    let minute ← if size = 4 then (whole 2 2).map some else .ok f.minute
    return (i, { f with hour := some hour, minute })
  else if size = 6 || (6 < size && t.findIdx? (· == '.') == some 6) then
    if f.parts.numbers.isEmpty && !t.contains '.' then
      let parts ← required <| (f.parts.addToken? (t.take 2) none).bind fun p =>
        (p.addToken? ((t.drop 2).take 2) none).bind fun p => p.addToken? (t.drop 4) none
      return (i, { f with parts })
    else
      let hour ← whole 0 2
      let minute ← whole 2 2
      let (second, micros) ← secondsAndMicros (t.drop 4)
      return (i, { f with
        hour := some hour, minute := some minute, second := some second,
        microsecond := some micros })
  else if size = 8 || size = 12 || size = 14 then
    let parts ← required <| (f.parts.addToken? (t.take 4) (some .year)).bind fun p =>
      (p.addToken? ((t.drop 4).take 2) none).bind fun p => p.addToken? ((t.drop 6).take 2) none
    let f := { f with parts }
    if size = 8 then return (i, f)
    else
      let hour ← whole 8 2
      let minute ← whole 10 2
      let second ← if size = 14 then (whole 12 2).map some else .ok f.second
      return (i, { f with hour := some hour, minute := some minute, second })
  else
    match unitOf tokens i with
    | some (last, unit) => return (last, ← withUnit f t value unit)
    | none =>
      if next == some [':'] && (tokens[i + 2]?).isSome then clockTime tokens i f value
      else if next == some ['-'] || next == some ['/'] || next == some ['.'] then
        separatedDay tokens i f t (next.getD [])
      else if next.all Token.isFiller then
        match (tokens[i + 2]?).bind Token.afternoon? with
        | some afternoon =>
          return (i + 2, { f with hour := some (adjusted value.truncated.toNat afternoon) })
        | none => return (i + 1, { f with parts := ← required (f.parts.addNumber? value) })
      else
        match (next.bind Token.afternoon?).filter fun _ => decide (value.truncated < 24) with
        | some afternoon =>
          return (i + 1, { f with hour := some (adjusted value.truncated.toNat afternoon) })
        | none =>
          if ← required (f.parts.couldBeDay? value) then
            return (i, { f with parts := ← required (f.parts.addNumber? value) })
          else .error .unreadable

/-- The year that two digits mean, seen from the year `now`. -/
def nearestYear (now : Nat) (year : Nat) (centuryKnown : Bool) : Nat :=
  if year < 100 && !centuryKnown then
    let full := year + now / 100 * 100
    if now + 50 ≤ full then full - 100 else if full + 50 < now then full + 100 else full
  else year

/-- Takes the name of a month, with a day and a year behind it if separators or "of" tie them to it;
what "of" ties to it is passed over if it is no year. -/
def namedMonth (now : Nat) (tokens : Array Token) (i : Nat) (f : Findings) (month : Nat) :
    Attempt (Nat × Findings) := do
  let parts ← required (f.parts.add? month false (some .month))
  let next := tokens[i + 1]?
  if next == some ['-'] || next == some ['/'] then
    let parts ← required (parts.addToken? (← tokenAt tokens (i + 2)) none)
    if (tokens[i + 3]?).isSome && tokens[i + 3]? == next then
      let parts ← required (parts.addToken? (← tokenAt tokens (i + 4)) none)
      return (i + 4, { f with parts })
    else return (i + 2, { f with parts })
  else if next == some [' '] && tokens[i + 3]? == some [' '] &&
      (tokens[i + 2]?).any Token.isOf then
    match (tokens[i + 4]?).bind Token.whole? with
    | some year =>
      let full := nearestYear now year false
      let long := 2 < (Number.digitsOf full).length
      return (i + 4, { f with parts := ← required (parts.add? full long (some .year)) })
    | none => return (i + 4, { f with parts })
  else return (i, { f with parts })

/-- Takes a sign and a distance from universal time, and a zone in parentheses behind it. Gives the
place of the last token used. -/
def signedOffset (tokens : Array Token) (i : Nat) (f : Findings) (negative : Bool) :
    Attempt (Nat × Findings) := do
  let t ← tokenAt tokens (i + 1)
  let (hours, minutes, last) ←
    if t.length = 4 then
      pure (← required (Token.whole? (t.take 2)), ← required (Token.whole? (t.drop 2)), i + 1)
    else if tokens[i + 2]? == some [':'] then
      pure (← required t.whole?, ← required (← tokenAt tokens (i + 3)).whole?, i + 3)
    else if t.length ≤ 2 then pure (← required t.whole?, 0, i + 1)
    else .error .unreadable
  let seconds : Int := (hours * 3600 + minutes * 60 : Nat)
  let f := { f with offset := some (if negative then -seconds else seconds) }
  let zone := (tokens[last + 3]?).getD []
  if (tokens[last + 1]?).any Token.isFiller && tokens[last + 2]? == some ['('] &&
      tokens[last + 4]? == some [')'] && 3 ≤ zone.length && f.hour.isSome && f.zone.isNone &&
      zone.isZoneLike then
    return (last + 4, { f with zone := some zone })
  else return (last, f)

/-- Reads the tokens from place `i` on, at most `fuel` of them. -/
def readFrom (now : Nat) : Nat → Array Token → Nat → Findings → Attempt Findings
  | 0, _, _, f => .ok f
  | fuel + 1, tokens, i, f =>
    match tokens[i]? with
    | none => .ok f
    | some t =>
      if t.isNumeric then do
        let (last, f) ← number tokens i f t
        readFrom now fuel tokens (last + 1) f
      else
        match t.weekday?, t.month?, t.afternoon? with
        | some weekday, _, _ => readFrom now fuel tokens (i + 1) { f with weekday := some weekday }
        | none, some month, _ => do
          let (last, f) ← namedMonth now tokens i f month
          readFrom now fuel tokens (last + 1) f
        | none, none, some afternoon =>
          match f.hour with
          | none => .error .unreadable
          | some hour =>
            if 12 < hour then .error .unreadable
            else
              readFrom now fuel tokens (i + 1)
                { f with hour := some (adjusted hour afternoon), afternoon := some afternoon }
        | none, none, none =>
          if f.hour.isSome && f.zone.isNone && f.offset.isNone && t.isZoneLike then
            match tokens[i + 1]? with
            | some [sign] =>
              if sign = '+' || sign = '-' then
                -- A sign behind a name says how far universal time is from there.
                let turned := tokens.setIfInBounds (i + 1) [if sign = '+' then '-' else '+']
                let zone := if t.isUniversal then none else some t
                readFrom now fuel turned (i + 1) { f with zone, offset := none }
              else
                readFrom now fuel tokens (i + 1)
                  { f with zone := some t, offset := if t = ['z'] then some 0 else none }
            | _ =>
              readFrom now fuel tokens (i + 1)
                { f with zone := some t, offset := if t = ['z'] then some 0 else none }
          else if f.hour.isSome && (t = ['+'] || t = ['-']) then do
            let (last, f) ← signedOffset tokens i f (t == ['-'])
            readFrom now fuel tokens (last + 1) f
          else if t.isFiller then readFrom now fuel tokens (i + 1) f
          else .error .unreadable

def Findings.isEmpty (f : Findings) (r : DayParts.Resolved) : Bool :=
  r == {} && f.weekday.isNone && f.hour.isNone && f.minute.isNone && f.second.isNone &&
    f.microsecond.isNone && f.afternoon.isNone && f.zone.isNone && f.offset.isNone

/-- The distance from universal time in seconds, if one is known. A name of universal time counts
as no distance, whatever was written behind it. -/
def Findings.universalOffset (f : Findings) : Option Int :=
  match f.zone with
  | some zone => if zone.isUniversal then some 0 else f.offset
  | none => f.offset

/-- The greatest number of days that a distance in time can have. -/
def maxOffsetDays : Nat := 999999999

/-- The moment that the findings denote, taking from `now` what was not said. -/
def build (now : Date) (f : Findings) (r : DayParts.Resolved) : Option DateTime :=
  let year := (r.year.map fun y => nearestYear now.year y f.parts.centuryKnown).getD now.year
  let month := r.month.getD now.month
  let day := r.day.getD (min now.day (daysInMonth year month))
  match DateTime.ofParts? year month day (f.hour.getD 0) (f.minute.getD 0) (f.second.getD 0)
      (f.microsecond.getD 0) with
  | none => none
  | some t =>
    match f.weekday with
    | some weekday =>
      if r.day.getD 0 = 0 then
        (t.date.addDays? ((7 + weekday - t.date.weekday) % 7 : Nat)).map fun date => { t with date }
      else some t
    | none => some t

/-- Reads a moment as of the day `now`. -/
def read (now : Date) (s : List Char) : Except Fault (Option Reading) :=
  let list := tokens s
  match readFrom now.year (list.length + 1) list.toArray 0 {} with
  | .error .unreadable => .ok none
  | .error (.fault fault) => .error fault
  | .ok f =>
    match f.parts.resolve? with
    | none => .ok none
    | some r =>
      if f.isEmpty r then .ok none
      else
        match build now f r, f.universalOffset with
        | none, _ => .ok none
        | some t, none => .ok (some ⟨t, none⟩)
        | some t, some seconds =>
          if seconds < -(maxOffsetDays * 86400 : Int) || (maxOffsetDays + 1) * 86400 ≤ seconds then
            .ok none
          else .ok (some ⟨t, some (seconds * 1000000)⟩)

end Intake.Calendar.Loose
