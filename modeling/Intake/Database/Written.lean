import Intake.Database.Row
import Intake.Database.Session
import Intake.Json.Printer
import Intake.Json.Reader
import Intake.Record.Written

/-! Databases as they are written to files: a JSON object with the rows of every table and the
identity that is given out next. -/

namespace Intake.Database

/-- The member that holds rows. -/
def rowsMember (name : String) (rows : List Record) : String × Json :=
  (name, .list (rows.map Record.toJson))

def tableMembers (t : Tables) : List (String × Json) :=
  [rowsMember "interfaces" (t.interfaces.map interfaceRow),
    rowsMember "mapping_rules" (t.rules.map ruleRow),
    rowsMember "processed_files" (t.outcomes.map outcomeRow)] ++
  DocumentKind.all.flatMap fun kind =>
    [rowsMember kind.headerType.table (t.headersOf kind),
      rowsMember kind.lineType.table (t.linesOf kind)]

def text (db : Database) : String :=
  let tables := match db.tables with
    | some t => Json.object (tableMembers t)
    | none => .null
  (Json.object [("next_id", .whole db.nextId), ("tables", tables)]).print

/-- The rows of a type in a member. -/
def readRows? (type : RecordType) (name : String) (members : List (String × Json)) :
    Option (List Record) :=
  match members.lookup name with
  | some (.list rows) => rows.mapM (Record.ofJson? type)
  | _ => none

/-- The tables in the members of an object. -/
def readTables? (members : List (String × Json)) : Option Tables := do
  let interfaces ← readRows? .interface "interfaces" members
  let rules ← readRows? .mappingRule "mapping_rules" members
  let outcomes ← readRows? .processedFile "processed_files" members
  let headers ← DocumentKind.all.mapM fun kind =>
    readRows? kind.headerType kind.headerType.table members
  let lines ← DocumentKind.all.mapM fun kind =>
    readRows? kind.lineType kind.lineType.table members
  return {
    interfaces := ← interfaces.mapM interfaceOfRow?
    rules := ← rules.mapM ruleOfRow?
    outcomes := ← outcomes.mapM outcomeOfRow?
    headers := headers.flatten
    lines := lines.flatten }

/-- The database that a text stands for. -/
def ofText? (s : String) : Option Database :=
  match Json.ofString s with
  | .ok (.object [("next_id", .whole n), ("tables", .null)]) => some { nextId := n.toNat }
  | .ok (.object [("next_id", .whole n), ("tables", .object members)]) =>
    (readTables? members).map fun t => { tables := some t, nextId := n.toNat }
  | _ => none

end Intake.Database
