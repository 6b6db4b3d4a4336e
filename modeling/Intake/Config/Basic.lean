import Intake.Chain.Step
import Intake.Problem
import Intake.Schema.Basic

/-! Configurations: a feed and its mapping rules. A configuration is used only if its values have
the right shapes, the feed's documents are of a kind that can be mapped, and the rules' chains name
no operation that does not exist. -/

namespace Intake

/-- A feed and its rules. -/
structure Config where
  interface : Interface
  rules : List Rule
  deriving DecidableEq, Repr

namespace Config

open Schema

def interfaceSlots : List Slot :=
  [{ name := "name", shape := .text (some 100) },
    { name := "interface_type", shape := .text (some 20) },
    { name := "root_element", shape := .text (some 100), isNullable := true,
      default := some .null },
    { name := "client_id", shape := .whole, isNullable := true, default := some .null },
    { name := "description", shape := .text (some 255), isNullable := true, default := some .null },
    { name := "is_active", shape := .truth, default := some (.truth true) }]

def ruleSlots : List Slot :=
  [{ name := "name", shape := .text (some 100) },
    { name := "source_path", shape := .text (some 500), isNullable := true, default := some .null },
    { name := "target_field", shape := .text (some 100) },
    { name := "table_name", shape := .text (some 50) },
    { name := "transformation", shape := .text (some 255), isNullable := true,
      default := some .null },
    { name := "is_active", shape := .truth, default := some (.truth true) },
    { name := "priority", shape := .whole, default := some (.whole 0) },
    { name := "required", shape := .truth, default := some (.truth false) },
    { name := "default_value", shape := .text (some 255), isNullable := true,
      default := some .null },
    { name := "description", shape := .text (some 255), isNullable := true, default := some .null }]

def interfaceOf (members : List (String × Json)) : Interface where
  name := textAt members "name"
  kindTag := textAt members "interface_type"
  rootElement := textAt? members "root_element"
  clientId := wholeAt? members "client_id"
  description := textAt? members "description"
  isActive := truthAt members "is_active"

def ruleOf (members : List (String × Json)) : Rule where
  name := textAt members "name"
  targetField := textAt members "target_field"
  tableName := textAt members "table_name"
  sourcePath := textAt? members "source_path"
  transformation := textAt? members "transformation"
  isActive := truthAt members "is_active"
  priority := wholeAt? members "priority"
  isRequired := truthAt members "required"
  defaultValue := textAt? members "default_value"
  description := textAt? members "description"

/-- A part of a configuration. -/
inductive Part where
  | interface | rule
  deriving DecidableEq, Repr

def Part.slots : Part → List Slot
  | interface => interfaceSlots
  | rule => ruleSlots

/-- Why a configuration is refused. -/
inductive Refusal where
  /-- The file holds no text that can be read as JSON. -/
  | unreadable (file reason : String)
  /-- Values of the wrong shape. -/
  | misshapen (part : Part) (violations : List Violation)
  | unknownKind (tag : String)
  | unknownOperation (rule : Rule) (operation : String)
  deriving DecidableEq, Repr

def Refusal.problem : Refusal → Problem
  | unreadable file reason =>
    .configuration ("Cannot read mapping configuration " ++ file ++ ": " ++ reason) []
  | misshapen _ _ => .configuration "Invalid mapping configuration: validation" []
  | unknownKind tag => .configuration ("Unsupported interface type '" ++ tag ++ "'") []
  | unknownOperation rule operation =>
    .configuration
      ("Rule '" ++ rule.name ++ "' uses unknown transformation '" ++ operation ++ "'")
      [("rule", .text rule.name), ("transformation", Json.ofText? rule.transformation)]

def Refusal.message (r : Refusal) : String := r.problem.message

/-- Why there is no configuration. -/
inductive Failure where
  | refused (refusal : Refusal)
  | fault (fault : Fault)
  deriving DecidableEq, Repr

def readPart (part : Part) : Json → Except Failure (List (String × Json))
  | .object members =>
    match readSlots part.slots members with
    | .ok values => .ok values
    | .error vs => .error (.refused (.misshapen part vs))
  | _ => .error (.refused (.misshapen part [⟨[], .notObject⟩]))

def readInterface (j : Json) : Except Failure Interface :=
  (readPart .interface j).map interfaceOf

def readRule (j : Json) : Except Failure Rule :=
  (readPart .rule j).map ruleOf

/-- The items of a value: those of a list, the characters of a text, or the names of an object. -/
def items : Json → Except Failure (List Json)
  | .list items => .ok items
  | .text s => .ok (s.toList.map fun c => .text c.toString)
  | .object members => .ok (members.map fun m => .text m.1)
  | j => .error (.fault (.noItems j.shapeName))

/-- A member, or a stand-in if it is missing or blank. -/
def memberOr (members : List (String × Json)) (name : String) (other : Json) : Json :=
  match members.lookup name with
  | some value => if value.isBlank then other else value
  | none => other

/-- The first operation of a rule's chain that does not exist. -/
def unknownOperation? (rule : Rule) : Option String :=
  ((Chain.steps rule.transformation).map Chain.Step.name).find? fun name =>
    !Chain.isSupported name

/-- Checks what the shapes of the values do not say. -/
def check (c : Config) : Except Failure Config :=
  match DocumentKind.ofTag? c.interface.kindTag with
  | none => .error (.refused (.unknownKind c.interface.kindTag))
  | some _ =>
    match c.rules.findSome? fun rule => (unknownOperation? rule).map fun name => (rule, name) with
    | some (rule, name) => .error (.refused (.unknownOperation rule name))
    | none => .ok c

def ofJson : Json → Except Failure Config
  | .object members => do
    let interface ← readInterface (memberOr members "interface" (.object []))
    let rules ← (← items (memberOr members "rules" (.list []))).mapM readRule
    check ⟨interface, rules⟩
  | j => .error (.fault (.noMembers j.shapeName))

end Config

end Intake
