import Intake.Text.Classes
import Intake.Text.Case
import Intake.Calendar.Date

/-! Layouts of written moments, read field by field. A layout is a text in which a percent sign and
a letter stand for a field; a run of blanks stands for one or more blanks, and any other character
for itself in either case. Each field has several forms, tried in a fixed order; the first way to
match the whole layout is taken, and it must use up the text. -/

namespace Intake.Calendar

/-- What a field of a layout says. -/
inductive LayoutField where
  | dayOfMonth | month | shortYear | year | dayOfYear
  | hour | dialHour | minute | second | fraction | halfDay
  | weekdayName | shortWeekdayName | monthName | shortMonthName
  | weekdayFromSunday | weekdayFromMonday | sundayWeek | mondayWeek
  | weekYear | weekNumber | offset | zone
  deriving DecidableEq, Repr

namespace Layout

/-- One character of a form: a decimal digit of any script, an ASCII character of a range, or a
letter in either case. -/
inductive Slot where
  | digit
  | range (first last : Char)
  | letter (c : Char)
  deriving DecidableEq, Repr

/-- Whether two characters are the same up to case. -/
def sameLetter (a b : Char) : Bool :=
  a == b || Text.lowerForm a == Text.lowerForm b || Text.upperForm a == Text.upperForm b

/-- Whether a character fits a slot. -/
def Slot.admits : Slot → Char → Bool
  | digit, c => Text.isDecimalDigit c
  | range first last, c => first ≤ c && c ≤ last
  | letter d, c => c == d.toLower || c == d.toUpper

/-- What follows the characters that fit the slots, if they do. -/
def afterSlots : List Slot → List Char → Option (List Char)
  | [], s => some s
  | _ :: _, [] => none
  | slot :: slots, c :: s => if slot.admits c then afterSlots slots s else none

/-- A form that is one character. -/
def exactly (c : Char) : Slot := .range c c

def word (s : String) : List Slot := s.toList.map .letter

def digits (n : Nat) : List Slot := List.replicate n .digit

/-- The forms of the digits behind the point of a second, the longest first. -/
def fractionForms : List (List Slot) :=
  [6, 5, 4, 3, 2, 1].map fun n => List.replicate n (.range '0' '9')

/-- The forms of a distance from universal time. -/
def offsetForms : List (List Slot) :=
  let minutes : List Slot := [.range '0' '5', .digit]
  let fractions := [6, 5, 4, 3, 2, 1].map fun n => exactly '.' :: digits n
  let seconds := (fractions ++ [[]]).map fun fraction => minutes ++ fraction
  let tails := seconds.map (exactly ':' :: ·) ++ seconds ++ [[]]
  let hours (sign : Char) : List Slot := [exactly sign, .digit, .digit]
  let signed (rest : List Slot) : List (List Slot) := ['+', '-'].map fun sign => hours sign ++ rest
  (tails.flatMap fun tail => signed (exactly ':' :: minutes ++ tail)) ++
    (tails.flatMap fun tail => signed (minutes ++ tail)) ++ [[exactly 'Z']]

/-- The forms of a field, in the order in which they are tried. -/
def forms : LayoutField → List (List Slot)
  | .dayOfMonth =>
    [[exactly '3', .range '0' '1'], [.range '1' '2', .digit], [exactly '0', .range '1' '9'],
      [.range '1' '9'], [exactly ' ', .range '1' '9']]
  | .month => [[exactly '1', .range '0' '2'], [exactly '0', .range '1' '9'], [.range '1' '9']]
  | .shortYear => [digits 2]
  | .year | .weekYear => [digits 4]
  | .dayOfYear =>
    [[exactly '3', exactly '6', .range '0' '6'], [exactly '3', .range '0' '5', .digit],
      [.range '1' '2', .digit, .digit], [exactly '0', .range '1' '9', .digit],
      [exactly '0', exactly '0', .range '1' '9'], [.range '1' '9', .digit],
      [exactly '0', .range '1' '9'], [.range '1' '9']]
  | .hour => [[exactly '2', .range '0' '3'], [.range '0' '1', .digit], [.digit]]
  | .dialHour => [[exactly '1', .range '0' '2'], [exactly '0', .range '1' '9'], [.range '1' '9']]
  | .minute => [[.range '0' '5', .digit], [.digit]]
  | .second => [[exactly '6', .range '0' '1'], [.range '0' '5', .digit], [.digit]]
  | .fraction => fractionForms
  | .halfDay => [word "am", word "pm"]
  | .weekdayName => weekdayNames.map word
  | .shortWeekdayName => weekdayNames.map fun name => word (shortName name)
  | .monthName => monthNames.map word
  | .shortMonthName => monthNames.map fun name => word (shortName name)
  | .weekdayFromSunday => [[.range '0' '6']]
  | .weekdayFromMonday => [[.range '1' '7']]
  | .sundayWeek | .mondayWeek => [[exactly '5', .range '0' '3'], [.range '0' '4', .digit], [.digit]]
  | .weekNumber =>
    [[exactly '5', .range '0' '3'], [exactly '0', .range '1' '9'], [.range '1' '4', .digit],
      [.digit]]
  | .offset => offsetForms
  | .zone => [word "utc", word "gmt"]

/-- A part of a layout. -/
inductive Item where
  | part (field : LayoutField)
  | blanks
  | character (c : Char)
  deriving DecidableEq, Repr

/-- The field of a directive's letter. -/
def field? : Char → Option LayoutField
  | 'd' => some .dayOfMonth
  | 'm' => some .month
  | 'y' => some .shortYear
  | 'Y' => some .year
  | 'j' => some .dayOfYear
  | 'H' => some .hour
  | 'I' => some .dialHour
  | 'M' => some .minute
  | 'S' => some .second
  | 'f' => some .fraction
  | 'p' => some .halfDay
  | 'A' => some .weekdayName
  | 'a' => some .shortWeekdayName
  | 'B' => some .monthName
  | 'b' => some .shortMonthName
  | 'w' => some .weekdayFromSunday
  | 'u' => some .weekdayFromMonday
  | 'U' => some .sundayWeek
  | 'W' => some .mondayWeek
  | 'G' => some .weekYear
  | 'V' => some .weekNumber
  | 'z' => some .offset
  | 'Z' => some .zone
  | _ => none

/-- The items that a directive's letter stands for. -/
def directive? : Char → Option (List Item)
  | '%' => some [.character '%']
  | 'x' => some [.part .month, .character '/', .part .dayOfMonth, .character '/',
      .part .shortYear]
  | 'X' => some [.part .hour, .character ':', .part .minute, .character ':', .part .second]
  | 'c' => some [.part .shortWeekdayName, .blanks, .part .shortMonthName, .blanks,
      .part .dayOfMonth, .blanks, .part .hour, .character ':', .part .minute, .character ':',
      .part .second, .blanks, .part .year]
  | c => (field? c).map fun field => [.part field]

/-- The items of a layout; `none` if a percent sign opens no directive. -/
def items? : List Char → Option (List Item)
  | [] => some []
  | ['%'] => none
  | '%' :: c :: rest =>
    match directive? c, items? rest with
    | some found, some more => some (found ++ more)
    | _, _ => none
  | c :: rest =>
    (items? rest).map fun more =>
      if Text.isBlank c then
        match more with
        | .blanks :: _ => if rest.head?.any Text.isBlank then more else .blanks :: more
        | _ => .blanks :: more
      else .character c :: more

end Layout

/-- A layout whose fields are all different. -/
structure Layout where
  items : List Layout.Item
  deriving DecidableEq, Repr

namespace Layout

def fieldsOf (items : List Item) : List LayoutField :=
  items.filterMap fun
    | .part field => some field
    | _ => none

/-- The layout that a text describes. -/
def ofString? (s : String) : Option Layout := (items? s.toList).map Layout.mk

/-- Whether a field stands in the layout more than once. -/
def repeats (l : Layout) : Bool := (fieldsOf l.items).eraseDups.length != (fieldsOf l.items).length

/-- A field as it was found. -/
abbrev Found := LayoutField × List Char

/-- The ways to take an item from the beginning of a text: the field found, if it is one, and what
follows. -/
def Item.takes (item : Item) (s : List Char) : List (Option Found × List Char) :=
  match item with
  | .part field =>
    (forms field).filterMap fun form =>
      (afterSlots form s).map fun rest => (some (field, s.take form.length), rest)
  | .blanks =>
    let run := (s.takeWhile Text.isBlank).length
    (List.range run).map fun n => (none, s.drop (run - n))
  | .character c =>
    match s with
    | d :: rest => if sameLetter c d then [(none, rest)] else []
    | [] => []

/-- The first way to take all items from the beginning of a text. -/
def firstMatch : List Item → List Char → Option (List Found × List Char)
  | [], s => some ([], s)
  | item :: items, s =>
    (item.takes s).findSome? fun (found, rest) =>
      (firstMatch items rest).map fun (more, rest) => (found.toList ++ more, rest)

/-- The fields of a text in the layout; nothing may follow them. -/
def fields? (l : Layout) (s : List Char) : Option (List Found) :=
  match firstMatch l.items s with
  | some (found, []) => some found
  | _ => none

end Layout

end Intake.Calendar
