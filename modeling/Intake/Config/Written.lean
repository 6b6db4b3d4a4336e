import Intake.Config.Basic

/-!
Configurations as JSON. Every field is written under the key it is read from, the default ones too,
so the text does not depend on what the reader fills in.
-/

namespace Intake

def Interface.toJson (i : Interface) : Json :=
  .object [("name", .text i.name), ("interface_type", .text i.kindTag),
    ("root_element", Json.ofText? i.rootElement), ("client_id", Json.ofWhole? i.clientId),
    ("description", Json.ofText? i.description), ("is_active", .truth i.isActive)]

def Rule.toJson (r : Rule) : Json :=
  .object [("name", .text r.name), ("source_path", Json.ofText? r.sourcePath),
    ("target_field", .text r.targetField), ("table_name", .text r.tableName),
    ("transformation", Json.ofText? r.transformation), ("is_active", .truth r.isActive),
    ("priority", Json.ofWhole? r.priority), ("required", .truth r.isRequired),
    ("default_value", Json.ofText? r.defaultValue), ("description", Json.ofText? r.description)]

def Config.toJson (c : Config) : Json :=
  .object [("interface", c.interface.toJson), ("rules", .list (c.rules.map Rule.toJson))]

end Intake
