import Intake.Text.Classes
import Intake.Text.Case
import Intake.Value.Basic

/-! Record types: their fields, and the table of those fields that mapping rules can reach. Rules
may spell a field's name in any case and with underscores, dashes and blanks wherever they like. The
fields that hold a record's identity, its owner and its dates of storage are out of their reach. -/

namespace Intake

/-- What is wrong with a value that a record does not take. The last kind is more than an objection:
the record breaks down. -/
inductive Objection.Kind where
  | wrongKind | wrongValue | unknownPlace | breakdown
  deriving DecidableEq, Repr

/-- Why a record does not take a value. -/
structure Objection where
  kind : Objection.Kind
  text : String
  deriving DecidableEq, Repr

/-- A field of a record type. -/
structure Field where
  name : String
  type : FieldType
  /-- The value of a fresh record. -/
  default : Option Value := none
  /-- The decimals that a store keeps. -/
  places : Option Nat := none
  /-- The values that the field does not take. -/
  objections : List (Value × Objection) := []
  deriving DecidableEq, Repr

namespace Field

/-- A field that must be given a value. -/
def given (name : String) (type : ValueType) : Field := { name, type := .single type }

/-- A field that has a value from the start. -/
def filled (name : String) (default : Value) : Field :=
  { name, type := .single default.type, default := some default }

/-- A field that may stay empty. -/
def vacant (name : String) (type : ValueType) : Field := { name, type := .optional type }

/-- A field for a decimal number that may stay empty. -/
def amount (name : String) (places : Nat) : Field :=
  { name, type := .optional .decimal, places := some places }

/-- Whether the field can be without a value. -/
def isOptional (f : Field) : Bool := f.type.present != f.type

end Field

/-- The form of a field's name that is left when case, underscores, dashes and blanks do not
count. -/
def plainName (name : String) : String :=
  let isPassedOver (c : Char) : Bool := c == '_' || c == '-' || Text.isBlank c
  String.ofList (Text.lowered (name.toList.filter fun c => !isPassedOver c))

/-- The fields that are out of the reach of rules. -/
def protectedFields : List String := ["id", "header_id", "client_id", "created_at", "updated_at"]

/-- Two fields that rules cannot tell apart. -/
structure Clash where
  type : String
  first : String
  second : String
  deriving DecidableEq, Repr

def Clash.message (c : Clash) : String :=
  c.type ++ " fields '" ++ c.first ++ "' and '" ++ c.second ++
    "' are indistinguishable to mapping rules"

/-- A type of records: its name, the name of the table that rules know it by, and its fields. -/
structure RecordType where
  name : String
  table : String
  fields : List Field
  deriving DecidableEq, Repr

namespace RecordType

/-- The fields that rules can reach. -/
def reachable (t : RecordType) : List Field :=
  t.fields.filter fun f => !protectedFields.contains f.name

/-- The field among `fields` that goes by a name. -/
def fieldAmong (fields : List Field) (name : String) : Option Field :=
  fields.find? fun f => plainName f.name == plainName name

/-- The first field that an earlier one among `fields` is mistaken for, with that one. -/
def clashAmong : List Field → List Field → Option (Field × Field)
  | _, [] => none
  | seen, f :: rest =>
    match fieldAmong seen f.name with
    | some first => some (first, f)
    | none => clashAmong (seen ++ [f]) rest

/-- The first clash among the fields that rules can reach. -/
def clash? (t : RecordType) : Option Clash :=
  (clashAmong [] t.reachable).map fun (first, second) => ⟨t.name, first.name, second.name⟩

/-- The fields that rules can reach, provided that they can be told apart. -/
def targets (t : RecordType) : Except Clash (List Field) :=
  match t.clash? with
  | some clash => .error clash
  | none => .ok t.reachable

/-- The field that rules reach by a name. -/
def target? (t : RecordType) (name : String) : Option Field := fieldAmong t.reachable name

end RecordType

end Intake
