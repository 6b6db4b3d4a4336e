import Intake.Calendar.Date
import Intake.Number.Shortest
import Intake.Text.Quoted

/-! The values that the fields of records hold, and the types that fields are declared with. -/

namespace Intake

/-- The kinds of documents that can be mapped. -/
inductive DocumentKind where
  | asn | order
  deriving DecidableEq, Repr

def DocumentKind.all : List DocumentKind := [asn, order]

def DocumentKind.tag : DocumentKind → String
  | asn => "ASN"
  | order => "ORDER"

/-- How the lines of a document were found. -/
inductive Discovery where
  | configured | pattern | heuristic
  deriving DecidableEq, Repr

def Discovery.all : List Discovery := [configured, pattern, heuristic]

def Discovery.tag : Discovery → String
  | configured => "configured"
  | pattern => "pattern"
  | heuristic => "heuristic"

/-- The tag of a way of finding lines together with the family it belongs to. -/
def Discovery.fullTag : Discovery → String
  | configured => "LineDiscovery.CONFIGURED"
  | pattern => "LineDiscovery.PATTERN"
  | heuristic => "LineDiscovery.HEURISTIC"

/-- The type of one value. -/
inductive ValueType where
  | text | truth | whole | decimal | double | date | dateTime | clock | identifier
  | documentKind | discovery | bytes | anything | nothing | unset
  deriving DecidableEq, Repr

/-- The name under which messages mention a type; a type that is left open has none. -/
def ValueType.name? : ValueType → Option String
  | text => some "str"
  | truth => some "bool"
  | whole => some "int"
  | decimal => some "Decimal"
  | double => some "float"
  | date => some "date"
  | dateTime => some "datetime"
  | clock => some "time"
  | identifier => some "UUID"
  | documentKind => some "DocumentType"
  | discovery => some "LineDiscovery"
  | bytes => some "bytes"
  | anything => some "Any"
  | nothing => some "NoneType"
  | unset => none

/-- The type of a field: one type, or a choice of two or more. -/
inductive FieldType where
  | single (type : ValueType)
  | choice (types : List ValueType)
  deriving DecidableEq, Repr

namespace FieldType

/-- The choice of several types, which is a single type if all of them are the same. -/
def ofList (types : List ValueType) : FieldType :=
  match types.eraseDups with
  | [type] => single type
  | types => choice types

/-- The type of a field that may be absent. -/
def optional (type : ValueType) : FieldType := choice [type, .nothing]

/-- The type without absence, if only one type is left then. -/
def present : FieldType → FieldType
  | single type => single type
  | choice types =>
    match types.filter (· != .nothing) with
    | [type] => single type
    | _ => choice types

/-- The name under which messages mention a type. -/
def name? : FieldType → Option String
  | single type => type.name?
  | choice types =>
    some (if types.length = 2 && types.contains .nothing then "Optional" else "Union")

end FieldType

/-- The value of a field. An identifier is a number of 128 bits. -/
inductive Value where
  | text (s : String)
  | truth (b : Bool)
  | whole (n : Int)
  | decimal (d : Number.Decimal)
  | double (x : Number.Double)
  | date (d : Calendar.Date)
  | dateTime (t : Calendar.DateTime)
  | clock (c : Calendar.Clock)
  | identifier (n : Nat)
  | documentKind (k : DocumentKind)
  | discovery (d : Discovery)
  deriving DecidableEq, Repr

def Value.type : Value → ValueType
  | text _ => .text
  | truth _ => .truth
  | whole _ => .whole
  | decimal _ => .decimal
  | double _ => .double
  | date _ => .date
  | dateTime _ => .dateTime
  | clock _ => .clock
  | identifier _ => .identifier
  | documentKind _ => .documentKind
  | discovery _ => .discovery

/-- An identifier in groups of 8, 4, 4, 4 and 12 hexadecimal digits. -/
def identifierText (n : Nat) : String :=
  let digits := Text.hexDigits 32 n
  let group (start count : Nat) : List Char := (digits.drop start).take count
  String.ofList (group 0 8 ++ '-' :: group 8 4 ++ '-' :: group 12 4 ++ '-' :: group 16 4 ++
    '-' :: group 20 12)

end Intake
