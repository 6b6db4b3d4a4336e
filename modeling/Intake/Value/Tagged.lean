import Intake.Calendar.Iso
import Intake.Json.Basic
import Intake.Number.Reader
import Intake.Text.Quoted
import Intake.Value.Basic

/-! Values as JSON. A value is an object with one member; its name is the value's type, and it holds
the text of the value, or the truth value itself. -/

namespace Intake

/-- The number that an identifier's text stands for. -/
def identifierOf? (s : String) : Option Nat :=
  (s.toList.filter (· != '-')).foldlM (fun n c => (Text.hexValue? c).map (16 * n + ·)) 0

namespace Value

def shown : Value → String
  | text s => s
  | truth b => if b then "True" else "False"
  | whole n => toString n
  | decimal d => d.shown
  | double x => x.text
  | date d => d.iso
  | dateTime t => t.iso
  | clock c => c.iso
  | identifier n => identifierText n
  | documentKind k => k.tag
  | discovery d => d.tag

def toJson : Value → Json
  | truth b => .object [("bool", .truth b)]
  | v => .object [(v.type.name?.getD "", .text v.shown)]

/-- The moment that a text stands for. -/
def moment? (s : String) : Option Calendar.DateTime :=
  match Calendar.Iso.read s.toList with
  | .ok (some r) => some r.moment
  | _ => none

/-- The value that JSON stands for, if it is one of those that databases keep. -/
def ofJson? : Json → Option Value
  | .object [("bool", .truth b)] => some (truth b)
  | .object [("str", .text s)] => some (text s)
  | .object [("int", .text s)] => (Number.count? s.toList).map whole
  | .object [("Decimal", .text s)] => (Number.amount? s.toList).map decimal
  | .object [("date", .text s)] => (moment? s).map fun t => date t.date
  | .object [("datetime", .text s)] => (moment? s).map dateTime
  | .object [("UUID", .text s)] => (identifierOf? s).map identifier
  | _ => none

end Value

end Intake
