import Intake.Fault
import Intake.Number.Double
import Intake.Record.Basic

/-! What a database keeps of a record. Whole numbers have 64 bits. Decimals are kept as doubles and
come back with the places of their field. A field that has a value from the start has it again if it
is kept without one. -/

namespace Intake

namespace Database

/-- Whether a database has room for a whole number. -/
def hasRoom (n : Int) : Bool := -(Number.twoTo 63 : Int) ≤ n && n < Number.twoTo 63

/-- A whole number that may be missing, provided that there is room for it. -/
def checkRoom : Option Int → Except Fault Unit
  | some n => if hasRoom n then .ok () else .error .unstorableWhole
  | none => .ok ()

/-- The decimal with `places` places that is nearest to a double, a half to the even one. Zero has
no sign. -/
def ofDouble? (places : Nat) : Number.Double → Option Number.Decimal
  | .finite negative mantissa exponent =>
    let (num, den) := Number.Double.scaled (mantissa * Number.tenTo places) 1 exponent
    some ⟨negative && mantissa != 0, Number.Double.roundHalfEven num den, -places⟩
  | _ => none

/-- What comes back for a decimal. -/
def keptDecimal (places : Nat) (d : Number.Decimal) : Number.Decimal :=
  (ofDouble? places d.toDouble).getD d

/-- What comes back for a value of a field. -/
def keptValue (f : Field) : Value → Except Fault Value
  | .whole n => if hasRoom n then .ok (.whole n) else .error .unstorableWhole
  | .decimal d => .ok (.decimal (keptDecimal (f.places.getD 10) d))
  | v => .ok v

def keptEntry (r : Record) (f : Field) : Except Fault (String × Option Value) :=
  match (r.get? f.name).or f.default with
  | some v => (keptValue f v).map fun v => (f.name, some v)
  | none => .ok (f.name, none)

def keptRecord (r : Record) : Except Fault Record :=
  (r.type.fields.mapM (keptEntry r)).map fun entries => ⟨r.type, entries⟩

end Database

end Intake
