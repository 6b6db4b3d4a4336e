import Intake.Chain.Step
import Intake.Fault
import Intake.Text.Classes
import Intake.Value.Basic

/-! Why a transformation chain gives no value, and the words for it. -/

namespace Intake.Chain

/-- How the text of a value has been rendered. -/
inductive Rendering where
  | number | date | time | dateTime
  deriving DecidableEq, Repr

def Rendering.word : Rendering → String
  | number => "number"
  | date => "date"
  | time => "time"
  | dateTime => "datetime"

/-- What a text was expected to be. -/
inductive Expectation where
  | number | truth | date | time | dateTime
  deriving DecidableEq, Repr

def Expectation.words : Expectation → String
  | number => "a number"
  | truth => "a boolean"
  | date => "a date"
  | time => "a time"
  | dateTime => "a date-time"

/-- Why a text is no value of the type it is converted to. -/
inductive Mismatch where
  | not (expected : Expectation)
  | badIdentifier
  | badHexadecimal (text : String)
  | bytesWithoutEncoding
  | noMember (text : String) (type : ValueType)
  | notConstructible
  | ambiguous
  deriving DecidableEq, Repr

def Mismatch.message : Mismatch → String
  | not expected => "not " ++ expected.words
  | badIdentifier => "badly formed hexadecimal UUID string"
  | badHexadecimal text => "invalid literal for int() with base 16: " ++ Text.quote text
  | bytesWithoutEncoding => "string argument without an encoding"
  | noMember text type => Text.quote text ++ " is not a valid " ++ type.name?.getD ""
  | notConstructible => "NoneType takes no arguments"
  | ambiguous => "Cannot instantiate typing.Union"

/-- What went wrong. -/
inductive Cause where
  | unknown (name : String)
  | afterRendering (op : Operation) (rendering : Rendering) (text : String)
  | unexpected (op : Operation) (text : String) (expected : Expectation)
  | badPlaces (op : Operation) (parameter : String)
  | inconvertible (text : String) (type : FieldType) (mismatch : Mismatch)
  deriving DecidableEq, Repr

def Cause.message : Cause → String
  | unknown name =>
    "Unknown transformation '" ++ name ++ "'. Supported: " ++ Text.quoteList Operation.supported
  | afterRendering op rendering text =>
    "Operation '" ++ op.name ++ "' cannot follow " ++ rendering.word ++ " rendering (value '" ++
      text ++ "')"
  | unexpected _ text expected => "'" ++ text ++ "' is not " ++ expected.words
  | badPlaces _ parameter => "Invalid decimal places '" ++ parameter ++ "'"
  | inconvertible text type mismatch =>
    "Cannot convert '" ++ text ++ "' to " ++ type.name?.getD "None" ++ ": " ++ mismatch.message

/-- The failure of a chain: its cause, the text it was given, the operation that failed, and the
type that the value was to have. -/
structure Refusal where
  cause : Cause
  rawText : String
  operation : Option String
  type : Option FieldType
  deriving DecidableEq, Repr

def Refusal.message (r : Refusal) : String := r.cause.message

def Refusal.typeName (r : Refusal) : Option String := r.type.bind FieldType.name?

/-- The text in which a date or time was looked for in vain, if that is what went wrong. -/
def Cause.unreadableMoment : Cause → Option String
  | unexpected _ text expected => moment text expected
  | inconvertible text _ (.not expected) => moment text expected
  | _ => none
where
  /-- The text without blanks around it, if a date or time was expected. -/
  moment (text : String) : Expectation → Option String
    | .number | .truth => none
    | .date | .time | .dateTime => if text.isEmpty then none else some (Text.trim text)

/-- Why a chain ends without a value: a refusal, or a fault of the arithmetic beneath. -/
inductive Failure where
  | refused (refusal : Refusal)
  | fault (fault : Fault)
  deriving DecidableEq, Repr

def Failure.message : Failure → String
  | refused r => r.message
  | fault f => f.message

end Intake.Chain
