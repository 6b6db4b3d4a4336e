import Intake.Calendar.Iso
import Intake.Calendar.Loose.Reader

/-! Moments as senders write them. A fixed list of layouts is tried first, then the international
notation, then a loose reading that fills up from the current day. A moment with a distance from
universal time is given in universal time. -/

namespace Intake.Calendar

/-- The layouts of dates and date-times, in the order in which they are tried. -/
def dateTimeLayoutTexts : List String :=
  ["%Y-%m-%d", "%Y-%m-%d %H:%M:%S", "%Y-%m-%d %H:%M:%S.%f", "%Y-%m-%dT%H:%M:%S",
    "%Y-%m-%dT%H:%M:%S.%f", "%Y-%m-%dT%H:%M:%SZ", "%Y%m%d", "%Y%m%d%H%M%S", "%Y/%m/%d",
    "%Y/%m/%d %H:%M:%S", "%d-%m-%Y", "%d/%m/%Y", "%d.%m.%Y", "%d-%m-%Y %H:%M:%S",
    "%d/%m/%Y %H:%M:%S"]

/-- The layouts of times of day, in the order in which they are tried. -/
def clockLayoutTexts : List String := ["%H:%M:%S", "%H:%M", "%H:%M:%S.%f"]

/-- The layouts of dates and date-times. -/
def dateTimeLayouts : List Layout := dateTimeLayoutTexts.filterMap Layout.ofString?

/-- The layouts of times of day. -/
def clockLayouts : List Layout := clockLayoutTexts.filterMap Layout.ofString?

/-- The first reading that one of the layouts gives. -/
def readLayouts? (layouts : List Layout) (s : List Char) : Option Reading :=
  layouts.findSome? fun layout => layout.read? s

/-- A reading in universal time. -/
def Reading.universal (r : Reading) : Except Fault DateTime :=
  match r.offset with
  | none => .ok r.moment
  | some n =>
    if DateTime.dayLength ≤ n.natAbs then .error .offsetTooLarge
    else
      match r.moment.add? (-n) with
      | some t => .ok t
      | none => .error .outOfRange

/-- Reads a moment in the international notation or loosely. -/
def readFree (now : Date) (s : List Char) : Except Fault (Option DateTime) := do
  let reading ← match ← Iso.read s with
    | some r => pure (some r)
    | none => Loose.read now s
  match reading with
  | none => return none
  | some r => return some (← r.universal)

/-- Reads a date or date-time; what is missing is taken from the day `now`. -/
def readDateTime (now : Date) (s : String) : Except Fault (Option DateTime) :=
  if s.isEmpty then .ok none
  else
    let s := Text.trimmed s.toList
    match readLayouts? dateTimeLayouts s with
    | some r => .ok (some r.moment)
    | none => readFree now s

/-- Reads a time of day, or the time of a date-time. -/
def readClock (now : Date) (s : String) : Except Fault (Option Clock) :=
  if s.isEmpty then .ok none
  else
    match readLayouts? clockLayouts (Text.trimmed s.toList) with
    | some r => .ok (some r.moment.clock)
    | none => do return (← readDateTime now (Text.trim s)).map DateTime.clock

/-- The layout that a caller asks for; an empty text asks for none. -/
def ownLayout? (layout : Option String) : Option Layout :=
  layout.bind fun l => if l.isEmpty then none else Layout.ofString? l

/-- Reads a moment in a layout of the caller's own before any other; only then the distance from
universal time is kept as written. -/
def readDateTimeIn (now : Date) (layout : Option String) (s : String) :
    Except Fault (Option Reading) :=
  let own := (ownLayout? layout).bind fun l => l.read? (Text.trimmed s.toList)
  match own with
  | some r => if s.isEmpty then .ok none else .ok (some r)
  | none => do return (← readDateTime now s).map fun t => ⟨t, none⟩

/-- Reads a time of day in a layout of the caller's own before any other. -/
def readClockIn (now : Date) (layout : Option String) (s : String) :
    Except Fault (Option Clock) :=
  let own := (ownLayout? layout).bind fun l => l.read? (Text.trimmed s.toList)
  match own with
  | some r => if s.isEmpty then .ok none else .ok (some r.moment.clock)
  | none => readClock now s

end Intake.Calendar
