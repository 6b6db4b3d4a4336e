import Intake.Text.Case
import Intake.Text.Classes
import Intake.Text.Split

/-! Transformation chains as they are written: steps between vertical bars, each a name with an
optional parameter behind a colon. Names are read in small letters and without blanks around them;
steps that are empty or called "none" or "null" do nothing and are left out. Operations have the names
under which chains call them. -/

namespace Intake.Chain

/-- An operation on the text of a value. -/
inductive Operation where
  | uppercase | lowercase | trim | removeLeadingZeros
  | dateFormat | timeFormat | dateTimeFormat
  | integerFormat | currencyFormat | decimalFormat
  deriving DecidableEq, Repr

namespace Operation

def name : Operation → String
  | uppercase => "uppercase"
  | lowercase => "lowercase"
  | trim => "trim"
  | removeLeadingZeros => "remove_leading_zeros"
  | dateFormat => "date_format"
  | timeFormat => "time_format"
  | dateTimeFormat => "datetime_format"
  | integerFormat => "integer_format"
  | currencyFormat => "currency_format"
  | decimalFormat => "decimal_format"

/-- Every name of an operation, short ones included. -/
def names : List (String × Operation) :=
  [("uppercase", uppercase), ("upper", uppercase), ("lowercase", lowercase), ("lower", lowercase),
    ("trim", trim), ("strip", trim), ("remove_leading_zeros", removeLeadingZeros),
    ("date_format", dateFormat), ("time_format", timeFormat), ("datetime_format", dateTimeFormat),
    ("integer_format", integerFormat), ("integer", integerFormat),
    ("currency_format", currencyFormat), ("currency", currencyFormat),
    ("decimal_format", decimalFormat), ("decimal", decimalFormat)]

def ofName? (name : String) : Option Operation := names.lookup name

/-- The names in the order in which messages list them. -/
def supported : List String := names.map Prod.fst

/-- Whether an operation may follow one that renders the value. Zeros are stripped from values as
they were received only. -/
def acceptsRendered (op : Operation) : Bool := op != removeLeadingZeros

end Operation

/-- A step of a chain: a name, which need not be that of an operation, and a parameter. -/
structure Step where
  name : String
  parameter : Option String
  deriving DecidableEq, Repr

/-- Names of steps that do nothing. -/
def idleNames : List String := ["", "none", "null"]

/-- Whether a step written so does nothing. -/
def isIdle (step : List Char) : Bool := idleNames.contains (String.ofList (Text.lowered step))

/-- Reads a step that has no blanks around it. -/
def Step.ofChars (step : List Char) : Step :=
  let (name, parameter) := Text.cut ':' step
  let parameter := Text.trimmed (parameter.getD [])
  ⟨String.ofList (Text.lowered (Text.trimmed name)),
    if parameter.isEmpty then none else some (String.ofList parameter)⟩

def stepsOf (chain : List Char) : List Step :=
  (((Text.pieces '|' chain).map Text.trimmed).filter (!isIdle ·)).map Step.ofChars

/-- The steps of a chain that may be missing. -/
def steps (chain : Option String) : List Step := stepsOf (chain.getD "").toList

/-- Whether a chain may name such a step: an idle one or an operation, in any case, with blanks
around it or a parameter behind it. -/
def isSupported (name : String) : Bool :=
  let name := Text.lowered (Text.trimmed name.toList)
  idleNames.contains (String.ofList name) ||
    (Operation.ofName? (String.ofList (Text.cut ':' name).1)).isSome

end Intake.Chain
