import Intake.Record.Basic
import Intake.Value.Tagged

/-! Records as JSON: an object with a member for every field that has a value. -/

namespace Intake.Record

def toJson (r : Record) : Json := .object (r.values.map fun v => (v.1, v.2.toJson))

/-- The record of a type that JSON stands for. A field without a member has no value. -/
def ofJson? (type : RecordType) : Json → Option Record
  | .object members => do
    let entries ← type.fields.mapM fun f =>
      match members.lookup f.name with
      | some j => (Value.ofJson? j).map fun v => (f.name, some v)
      | none => some (f.name, none)
    return ⟨type, entries⟩
  | _ => none

end Intake.Record
