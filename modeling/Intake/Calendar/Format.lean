import Intake.Calendar.Date
import Intake.Number.Decimal
import Intake.Text.Case

/-! Moments written by a format: a text in which a percent sign opens a directive. Between the sign
and the letter of a directive stand flags (`_`, `-` and `0` for the padding, `^` and `#` for the
case), a least width, and one of the modifiers `E` and `O`. A directive that is not known, or not
known with its modifier, is written as it stands. A year has no leading zeros. -/

namespace Intake.Calendar.Format

/-- What stands between the percent sign and the letter. -/
structure Flags where
  padding : Option Char := none
  capitals : Bool := false
  swapped : Bool := false
  width : Nat := 0
  modifier : Option Char := none
  deriving DecidableEq, Repr

/-- What a directive stands for: a number with the digits it has at least, which is spaced if it is
filled up with spaces unless a flag says otherwise; a count of seconds; a word, whose case the flags
can change; the half of the day; a text that stays as it is; or the name of the zone, which is
empty. -/
inductive Field where
  | number (digits value : Nat) (spaced : Bool)
  | elapsed (seconds : Int)
  | word (text : List Char)
  | halfDay (text : List Char) (small : Bool)
  | verbatim (text : List Char)
  | zone
  deriving DecidableEq, Repr

/-- The seconds from the first of January 1970 to a moment. -/
def unixSeconds (t : DateTime) : Int :=
  (t.date.count : Int) * 86400 + t.clock.count / 1000000 - 62135596800

/-- The moment so many seconds after the first of January 1970. -/
def ofUnixSeconds? (n : Int) : Option DateTime := DateTime.ofCount? ((n + 62135596800) * 1000000)

/-- The hour on a dial of twelve. -/
def dialHour (hour : Nat) : Nat :=
  if 12 < hour then hour - 12 else if hour = 0 then 12 else hour

/-- The field of a directive's letter, composed ones left out. -/
def field? (t : DateTime) (letter : Char) : Option Field :=
  let day := t.date
  let clock := t.clock
  let sunday := (day.weekday + 1) % 7
  let yearDay := day.dayOfYear - 1
  let two (n : Nat) : Option Field := some (.number 2 n false)
  match letter with
  | 'a' => some (.word (shortName (weekdayNames[day.weekday]?.getD "")).toList)
  | 'A' => some (.word (weekdayNames[day.weekday]?.getD "").toList)
  | 'b' | 'h' => some (.word (shortName (monthNames[day.month - 1]?.getD "")).toList)
  | 'B' => some (.word (monthNames[day.month - 1]?.getD "").toList)
  | 'C' => some (.number 1 (day.year / 100) false)
  | 'd' => two day.day
  | 'e' => some (.number 2 day.day true)
  | 'g' => two (day.week.1 % 100)
  | 'G' => some (.number 1 day.week.1 false)
  | 'H' => two clock.hour
  | 'I' => two (dialHour clock.hour)
  | 'j' => some (.number 3 day.dayOfYear false)
  | 'k' => some (.number 2 clock.hour true)
  | 'l' => some (.number 2 (dialHour clock.hour) true)
  | 'm' => two day.month
  | 'M' => two clock.minute
  | 'n' => some (.verbatim ['\n'])
  | 'p' => some (.halfDay (if clock.hour < 12 then "AM" else "PM").toList false)
  | 'P' => some (.halfDay (if clock.hour < 12 then "AM" else "PM").toList true)
  | 's' => some (.elapsed (unixSeconds t))
  | 'S' => two clock.second
  | 't' => some (.verbatim ['\t'])
  | 'u' => some (.number 1 (day.weekday + 1) false)
  | 'U' => two ((yearDay + 7 - sunday) / 7)
  | 'V' => two day.week.2
  | 'w' => some (.number 1 sunday false)
  | 'W' => two ((yearDay + 7 - day.weekday) / 7)
  | 'y' => two (day.year % 100)
  | 'Y' => some (.number 1 day.year false)
  | 'Z' => some .zone
  | '%' => some (.verbatim ['%'])
  | _ => none

/-- The format that a composed directive stands for. -/
def composition? : Char → Option String
  | 'c' => some "%a %b %e %H:%M:%S %Y"
  | 'D' => some "%m/%d/%y"
  | 'F' => some "%Y-%m-%d"
  | 'r' => some "%I:%M:%S %p"
  | 'R' => some "%H:%M"
  | 'T' => some "%H:%M:%S"
  | 'x' => some "%m/%d/%y"
  | 'X' => some "%H:%M:%S"
  | _ => none

/-- Whether a letter may carry a modifier. -/
def admits (modifier : Option Char) (letter : Char) : Bool :=
  match modifier with
  | none => true
  | some 'E' => !"aAbBhdDeFgGHIjklmMSUVwW".toList.contains letter
  | some _ => !"aADFcxXY".toList.contains letter

/-- A text filled up in front to the width that the flags ask for. -/
def fill (flags : Flags) (text : List Char) : List Char :=
  let filler := if flags.padding == some '0' then '0' else ' '
  List.replicate (flags.width - text.length) filler ++ text

/-- A text in capitals if the flags ask for them. -/
def capitalized (flags : Flags) (text : List Char) : List Char :=
  if flags.capitals then Text.uppered text else text

/-- A number with the flags of its directive. -/
def numberText (flags : Flags) (digits value : Nat) (spaced : Bool) : List Char :=
  let shown := Number.digitsOf value
  let missing := max digits flags.width - shown.length
  match flags.padding with
  | some '-' => fill flags shown
  | some '0' => fill flags (List.replicate missing '0' ++ shown)
  | padding =>
    if spaced || padding == some '_' then
      List.replicate missing ' ' ++ fill { flags with width := flags.width - missing } shown
    else fill flags (List.replicate missing '0' ++ shown)

/-- A field with the flags of its directive. -/
def fieldText (flags : Flags) : Field → List Char
  | .number digits value spaced => numberText flags digits value spaced
  | .elapsed seconds =>
    let shown := Number.digitsOf seconds.natAbs
    fill flags (if seconds < 0 then '-' :: shown else shown)
  | .word text => fill flags (if flags.capitals || flags.swapped then Text.uppered text else text)
  | .halfDay text small =>
    fill flags (if small || flags.swapped then Text.lowered text else text)
  | .verbatim text => fill flags text
  | .zone => if flags.padding == some '-' then [] else fill flags []

/-- A format whose directives have no flags and are not composed. -/
def plain (t : DateTime) : List Char → List Char
  | '%' :: letter :: rest =>
    (match field? t letter with
      | some field => fieldText {} field
      | none => ['%', letter]) ++ plain t rest
  | c :: rest => c :: plain t rest
  | [] => []

/-- The flags at the beginning of a text, and what follows them. -/
def readFlags (flags : Flags) : List Char → Flags × List Char
  | c :: rest =>
    if c = '_' || c = '-' || c = '0' then readFlags { flags with padding := some c } rest
    else if c = '^' then readFlags { flags with capitals := true } rest
    else if c = '#' then readFlags { flags with swapped := true } rest
    else (flags, c :: rest)
  | [] => (flags, [])

/-- The width at the beginning of a text, at most `limit`, and what follows it. -/
def readWidth (limit : Nat) (s : List Char) : Nat × List Char :=
  let digits := s.takeWhile Char.isDigit
  (min limit (digits.foldl (fun n c => 10 * n + (c.toNat - 48)) 0), s.dropWhile Char.isDigit)

/-- A modifier at the beginning of a text, and what follows it. -/
def readModifier : List Char → Option Char × List Char
  | 'E' :: rest => (some 'E', rest)
  | 'O' :: rest => (some 'O', rest)
  | s => (none, s)

/-- The directive whose percent sign has been read: its text, and what follows it. -/
def directive (t : DateTime) (limit : Nat) (s : List Char) : List Char × List Char :=
  let (flags, afterFlags) := readFlags {} s
  let (width, afterWidth) := readWidth limit afterFlags
  let (modifier, afterModifier) := readModifier afterWidth
  let flags := { flags with width := width, modifier := modifier }
  let asWritten (rest : List Char) : List Char :=
    fill flags (capitalized flags ('%' :: s.take (s.length - rest.length)))
  match afterModifier with
  | [] => (asWritten [], [])
  | letter :: rest =>
    if !admits modifier letter then
      let shown := asWritten rest
      (if flags.swapped && (letter = 'b' || letter = 'h') then Text.uppered shown else shown, rest)
    else if letter = 'z' then ([], rest)
    else
      match field? t letter, composition? letter with
      | some field, _ => (fieldText flags field, rest)
      | none, some format => (fill flags (capitalized flags (plain t format.toList)), rest)
      | none, none => (asWritten rest, rest)

/-- A format written with at most `fuel` directives and plain characters. -/
def expand (t : DateTime) (limit : Nat) : Nat → List Char → List Char
  | 0, _ => []
  | _, [] => []
  | fuel + 1, '%' :: rest =>
    let (text, rest) := directive t limit rest
    text ++ expand t limit fuel rest
  | fuel + 1, c :: rest => c :: expand t limit fuel rest

/-- The format with the directives for the offset, the zone and the microseconds replaced. Only
those that stand directly behind their percent sign count. -/
def withFractions (microsecond : Nat) : List Char → List Char
  | '%' :: 'z' :: rest => withFractions microsecond rest
  | '%' :: 'Z' :: rest => withFractions microsecond rest
  | '%' :: 'f' :: rest => padded 6 microsecond ++ withFractions microsecond rest
  | '%' :: c :: rest => '%' :: c :: withFractions microsecond rest
  | c :: rest => c :: withFractions microsecond rest
  | [] => []

/-- The format with the directives for the offset and the zone replaced by those of universal
time. -/
def withUniversalZone : List Char → List Char
  | '%' :: 'z' :: rest => "+0000".toList ++ withUniversalZone rest
  | '%' :: 'Z' :: rest => "UTC".toList ++ withUniversalZone rest
  | '%' :: c :: rest => '%' :: c :: withUniversalZone rest
  | c :: rest => c :: withUniversalZone rest
  | [] => []

/-- The room that is given to the text of a format: a power of two, at least 1024 and at least 256
times the length of the format. -/
def room (formatLength : Nat) : Nat :=
  1024 * (((List.range 64).map Number.twoTo).find? fun n => formatLength ≤ 4 * n).getD 1

/-- A format whose last replacements have been made. A text that needs more room than its format is
given is empty. -/
def written (t : DateTime) (format : List Char) : String :=
  let limit := room format.length
  let text := expand t limit (format.length + 1) format
  if text.length < limit then String.ofList text else ""

/-- The part of a format that counts: it ends at a null character. -/
def visible (format : String) : List Char := format.toList.takeWhile (· != '\x00')

end Format

/-- A moment written by a format. -/
def DateTime.format (t : DateTime) (format : String) : String :=
  Format.written t (Format.withFractions t.clock.microsecond (Format.visible format))

/-- A moment of universal time written by a format. There are no microseconds. -/
def DateTime.stamp (t : DateTime) (format : String) : String :=
  Format.written t (Format.withUniversalZone (Format.visible format))

/-- A time of day written by a format, as of the first of January 1900. -/
def Clock.format (c : Clock) (format : String) : String :=
  DateTime.format ⟨⟨1900, 1, 1, by decide⟩, c⟩ format

end Intake.Calendar
