import Intake.Database.Tables
import Intake.Record.Fresh

/-! The rows of tables as records: feeds, rules and records of attempts. -/

namespace Intake

namespace Record

def text? (r : Record) (name : String) : Option String :=
  match r.get? name with
  | some (.text s) => some s
  | _ => none

def whole? (r : Record) (name : String) : Option Int :=
  match r.get? name with
  | some (.whole n) => some n
  | _ => none

def truth (r : Record) (name : String) : Bool := r.get? name == some (.truth true)

def identifier? (r : Record) (name : String) : Option Nat :=
  match r.get? name with
  | some (.identifier n) => some n
  | _ => none

def moment? (r : Record) (name : String) : Option Calendar.DateTime :=
  match r.get? name with
  | some (.dateTime t) => some t
  | _ => none

end Record

namespace Database

def interfaceRow (i : Stored Interface) : Record :=
  let v := i.value
  .ofValues .interface
    [("id", some (.identifier i.id)), ("name", some (.text v.name)),
      ("interface_type", some (.text v.kindTag)), ("root_element", v.rootElement.map .text),
      ("client_id", v.clientId.map .whole), ("description", v.description.map .text),
      ("is_active", some (.truth v.isActive))]

def interfaceOfRow? (r : Record) : Option (Stored Interface) := do
  return ⟨← r.id?, {
    name := ← r.text? "name"
    kindTag := ← r.text? "interface_type"
    rootElement := r.text? "root_element"
    clientId := r.whole? "client_id"
    description := r.text? "description"
    isActive := r.truth "is_active" }⟩

def ruleRow (r : Stored FeedRule) : Record :=
  let v := r.value.rule
  .ofValues .mappingRule
    [("id", some (.identifier r.id)), ("name", some (.text v.name)),
      ("source_path", v.sourcePath.map .text), ("target_field", some (.text v.targetField)),
      ("table_name", some (.text v.tableName)), ("transformation", v.transformation.map .text),
      ("is_active", some (.truth v.isActive)), ("priority", v.priority.map .whole),
      ("required", some (.truth v.isRequired)), ("default_value", v.defaultValue.map .text),
      ("description", v.description.map .text),
      ("interface_id", r.value.interfaceId.map .identifier),
      ("client_id", r.value.clientId.map .whole)]

def ruleOfRow? (r : Record) : Option (Stored FeedRule) := do
  let rule : Rule := {
    name := ← r.text? "name"
    targetField := ← r.text? "target_field"
    tableName := ← r.text? "table_name"
    sourcePath := r.text? "source_path"
    transformation := r.text? "transformation"
    isActive := r.truth "is_active"
    priority := r.whole? "priority"
    isRequired := r.truth "required"
    defaultValue := r.text? "default_value"
    description := r.text? "description" }
  return ⟨← r.id?, ⟨r.identifier? "interface_id", r.whole? "client_id", rule⟩⟩

def outcomeRow (o : Outcome) : Record :=
  .ofValues .processedFile
    [("id", some (.identifier o.id)), ("created_at", some (.dateTime o.createdAt)),
      ("file_name", o.fileName.map .text), ("document_type", o.kindTag.map .text),
      ("status", some (.text o.status.tag)), ("error_message", o.message.map .text),
      ("interface_id", o.interfaceId.map .identifier), ("client_id", o.clientId.map .whole),
      ("header_id", o.headerId.map .identifier), ("line_count", some (.whole o.lineCount)),
      ("line_discovery", o.discovery.map fun d => .text d.tag),
      ("processed_at", o.processedAt.map .dateTime)]

def outcomeOfRow? (r : Record) : Option Outcome := do
  return {
    id := ← r.id?
    createdAt := ← r.moment? "created_at"
    fileName := r.text? "file_name"
    kindTag := r.text? "document_type"
    status := ← Status.all.find? fun s => r.text? "status" == some s.tag
    message := r.text? "error_message"
    interfaceId := r.identifier? "interface_id"
    clientId := r.whole? "client_id"
    headerId := r.identifier? "header_id"
    lineCount := ((r.whole? "line_count").getD 0).toNat
    discovery := Discovery.all.find? fun d => r.text? "line_discovery" == some d.tag
    processedAt := r.moment? "processed_at" }

end Database

end Intake
