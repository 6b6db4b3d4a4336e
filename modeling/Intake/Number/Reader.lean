import Intake.Number.Decimal
import Intake.Text.Classes
import Intake.Text.Split

/-! Numbers as senders write them. An amount is an optional sign and decimal digits of any script
with at most one separator, a point or a comma, anywhere among them. A count is an optional sign
and digits that may be grouped by single underscores. Blanks around either are ignored. -/

namespace Intake.Number

/-- The number that digits denote, the most significant first. -/
def ofDigits (digits : List Nat) : Nat := digits.foldl (fun n d => 10 * n + d) 0

/-- The number that characters denote if all of them are decimal digits. -/
def digitsValue? (s : List Char) : Option Nat := (s.mapM Text.digitValue?).map ofDigits

/-- A sign at the beginning of a text, and what follows it. -/
def signed : List Char → Bool × List Char
  | '-' :: rest => (true, rest)
  | '+' :: rest => (false, rest)
  | s => (false, s)

/-- The text with its only comma read as a point, unless it has a point already. -/
def withPoint (s : List Char) : List Char :=
  if s.count ',' = 1 && !s.contains '.' then s.map fun c => if c = ',' then '.' else c else s

def amount? (s : List Char) : Option Decimal :=
  let (negative, body) := signed (withPoint (Text.trimmed s))
  let (whole, fraction) := Text.cut '.' body
  let digits := whole ++ fraction.getD []
  if digits.isEmpty then none
  else
    (digitsValue? digits).map fun coefficient =>
      ⟨negative, coefficient, -((fraction.getD []).length : Int)⟩

/-- The most digits that a count may have. -/
def countDigitLimit : Nat := 4300

/-- Blanks that may stand around a count: all but the information separators. -/
def isSpacing (c : Char) : Bool := Text.isBlank c && !(28 ≤ c.toNat && c.toNat ≤ 31)

def count? (s : List Char) : Option Int :=
  let (negative, body) := signed (Text.dropEnd isSpacing (s.dropWhile isSpacing))
  let groups := Text.pieces '_' body
  if groups.any List.isEmpty || countDigitLimit < groups.flatten.length then none
  else (digitsValue? groups.flatten).map fun n => if negative then -(n : Int) else n

end Intake.Number
