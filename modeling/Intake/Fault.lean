import Intake.Text.Quoted

/-! Faults: what nobody is prepared for where it happens. They are not about a document or a rule
that cannot be used, but about a number or a moment that cannot be represented, a text that cannot
be looked at, or a collaborator that breaks down, and they end whatever was being done. -/

namespace Intake

/-- A fault. -/
inductive Fault where
  /-- A moment outside the years 1 to 9999. -/
  | outOfRange
  /-- A distance from universal time of a day or more. -/
  | offsetTooLarge
  /-- A number of minutes or hours with more digits than can be divided. -/
  | indivisible
  /-- A rounded number with more digits than are kept. -/
  | tooManyDigits
  /-- A power of ten above the greatest one. -/
  | exponentTooLarge
  /-- A path, a qualifier or a namespace with characters that no document can hold. -/
  | strangeCharacters
  /-- A namespace without a qualifier among those that paths may mention. -/
  | emptyQualifier
  /-- A qualifier without a namespace among those that paths may mention. -/
  | emptySpace
  /-- A record that breaks down under a value. -/
  | missingKey (text : String)
  /-- A value of a shape that has no members where members are looked for. -/
  | noMembers (shape : String)
  /-- A value of a shape that has no items where items are looked for. -/
  | noItems (shape : String)
  /-- A whole number of more digits than are read. -/
  | unreadableWhole (digits : Nat)
  /-- A whole number that a database has no room for. -/
  | unstorableWhole
  deriving DecidableEq, Repr

def Fault.message : Fault → String
  | outOfRange => "date value out of range"
  | offsetTooLarge =>
    "offset must be a timedelta strictly between -timedelta(hours=24) and timedelta(hours=24)."
  | indivisible => "[<class 'decimal.DivisionImpossible'>]"
  | tooManyDigits => "[<class 'decimal.InvalidOperation'>]"
  | exponentTooLarge => "[<class 'decimal.Overflow'>]"
  | strangeCharacters =>
    "All strings must be XML compatible: Unicode or ASCII, no NULL bytes or control characters"
  | emptyQualifier => "empty namespace prefix is not supported in XPath"
  | emptySpace => "setting default namespace is not supported in XPath"
  | missingKey text => Text.quote text
  | noMembers shape => "'" ++ shape ++ "' object has no attribute 'get'"
  | noItems shape => "'" ++ shape ++ "' object is not iterable"
  | unreadableWhole digits =>
    "Exceeds the limit (4300 digits) for integer string conversion: value has " ++
      toString digits ++ " digits; use sys.set_int_max_str_digits() to increase the limit"
  | unstorableWhole => "Python int too large to convert to SQLite INTEGER"

end Intake
