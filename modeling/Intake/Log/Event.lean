import Intake.Calendar.Format
import Intake.Log.Basic
import Intake.Template.Fill
import Intake.Text.Split

/-! Events as logs show them: as one JSON object, or as a text by a template in which the parts of
the event have names. -/

namespace Intake.Log

/-- The names of levels and the numbers by which levels are compared. -/
def levels : List (String × Nat) :=
  [("CRITICAL", 50), ("ERROR", 40), ("WARNING", 30), ("INFO", 20), ("DEBUG", 10), ("NOTSET", 0),
    ("FATAL", 50), ("WARN", 30)]

def levelRank? (name : String) : Option Nat := levels.lookup name

def levelName (rank : Nat) : String :=
  match levels.find? (·.2 == rank) with
  | some level => level.1
  | none => "Level " ++ toString rank

/-- The log that goes by a name: all logs are parts of the program's. -/
def fullName (name : String) : String :=
  let part := (Text.dropStart? "docmapper.".toList name.toList).map String.ofList
  "docmapper." ++ part.getD name

/-- An event. -/
structure Event where
  logger : String
  level : String
  message : String
  /-- The part of the program, the function and the line in which the event happened. -/
  part : String
  function : Option String := none
  line : Int
  /-- The second in which the event happened, and the milliseconds after it. -/
  moment : Calendar.DateTime
  milliseconds : Int := 0
  host : String
  process : Int
  thread : Int
  exception : Option String := none
  fields : List (String × Json) := []

namespace Event

/-- The time of an event; without a format, the milliseconds stand behind a comma. -/
def timestamp (e : Event) : Option String → String
  | some format => e.moment.stamp format
  | none =>
    e.moment.stamp "%Y-%m-%d %H:%M:%S" ++ "," ++
      String.ofList (Calendar.padded 3 e.milliseconds.natAbs)

/-- An event as JSON. Its further fields are members too, and go before members of their names. -/
def toJson (e : Event) (dateFormat : Option String) : Json :=
  let own :=
    [("timestamp", .text (e.timestamp dateFormat)), ("level", .text e.level),
      ("logger", .text e.logger), ("message", .text e.message), ("module", .text e.part),
      ("function", Json.ofText? e.function), ("line", .whole e.line), ("hostname", .text e.host),
      ("process_id", .whole e.process), ("thread_id", .whole e.thread)] ++
    (e.exception.map fun x => ("exception", Json.text x)).toList
  .object (e.fields.foldl (fun members m => Json.withMember members m.1 m.2) own)

/-- The parts of an event that templates can name. -/
def members (e : Event) (dateFormat : Option String) : List (String × Json) :=
  [("name", .text e.logger), ("levelname", .text e.level),
    ("levelno", .whole ((levelRank? e.level).getD 0)), ("message", .text e.message),
    ("asctime", .text (e.timestamp dateFormat)), ("module", .text e.part),
    ("funcName", Json.ofText? e.function), ("lineno", .whole e.line),
    ("msecs", .whole e.milliseconds), ("process", .whole e.process), ("thread", .whole e.thread)]

/-- An event as a text, if the template can be filled. -/
def text? (e : Event) (template : String) (dateFormat : Option String) : Option String :=
  match Template.fillMembers template (e.members dateFormat) with
  | .error _ => none
  | .ok text => some (text ++ (e.exception.map ("\n" ++ ·)).getD "")

end Event

/-- What an event shows of an exception. -/
def exceptionText (name text : String) : String :=
  if text.isEmpty then name else name ++ ": " ++ text

end Intake.Log
