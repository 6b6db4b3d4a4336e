import Intake.Record.Basic
import Intake.Record.Catalog
import Intake.Settings.Mapping

/-! Fresh headers and lines, filled with what the system itself knows: identities, owners, times and
the mark of this program. Everything else has the value of its field's declaration. -/

namespace Intake

namespace Record

/-- The values that say who made a record. -/
def auditValues (s : MappingSettings) : List (String × Option Value) :=
  [("created_source", some (.text s.auditSource)),
    ("last_updated_source", some (.text s.auditSource))]

/-- The values that say which record it is and when it was made. -/
def originValues (id : Nat) (now : Calendar.DateTime) : List (String × Option Value) :=
  [("id", some (.identifier id)), ("created_at", some (.dateTime now))]

/-- The times that a fresh header holds. -/
def headerTimes (now : Calendar.DateTime) : DocumentKind → List (String × Option Value)
  | .asn => [("receipt_dttm", some (.date now.date))]
  | .order =>
    [("order_date_dttm", some (.dateTime now)), ("created_dttm", some (.dateTime now)),
      ("last_updated_dttm", some (.dateTime now))]

/-- The owner of a record. -/
def ownerValue (clientId : Option Int) : String × Option Value :=
  ("client_id", clientId.map Value.whole)

def clientId? (r : Record) : Option Int :=
  match r.get? "client_id" with
  | some (.whole n) => some n
  | _ => none

def freshHeader (s : MappingSettings) (now : Calendar.DateTime) (kind : DocumentKind) (id : Nat)
    (clientId : Option Int) : Record :=
  ofValues kind.headerType
    (originValues id now ++ auditValues s ++ headerTimes now kind ++ [ownerValue clientId])

/-- A fresh line of a header; without an owner of its own it belongs to the header's. -/
def freshLine (s : MappingSettings) (now : Calendar.DateTime) (kind : DocumentKind) (id : Nat)
    (header : Record) (number : Int) (clientId : Option Int) : Record :=
  ofValues kind.lineType
    (originValues id now ++ auditValues s ++
      [("header_id", header.id?.map Value.identifier), ownerValue (clientId <|> header.clientId?),
        ("line_number", some (.text (toString number)))])

end Record

end Intake
