import Intake.Json.Reader
import Intake.Schema.Basic
import Intake.Settings.Dotenv
import Intake.Settings.Mapping
import Intake.Text.Case

/-! The settings of the program, and how they are put together from variables of the environment and
from a file of variables. A variable is known by its name in any case. Each section of the settings
has variables of its own, whose names begin with the section's mark, and may also be given as a
whole by one variable that holds a JSON object. -/

namespace Intake

/-- The settings of the database. -/
structure DatabaseSettings where
  url : String := "sqlite:///./docmapper.db"
  /-- Whether statements are logged. -/
  echo : Bool := false
  deriving DecidableEq, Repr

/-- The settings of the log. -/
structure LogSettings where
  level : String := "INFO"
  isJson : Bool := false
  format : String := "%(asctime)s - %(levelname)s - %(name)s - %(message)s"
  filePath : Option String := none
  maxBytes : Int := 10485760
  backupCount : Int := 5
  deriving DecidableEq, Repr

/-- The settings of the program. -/
structure Settings where
  appName : String := "docmapper"
  environment : String := "development"
  database : DatabaseSettings := {}
  log : LogSettings := {}
  mapping : MappingSettings := {}
  /-- Variables of a file that are none of the settings. -/
  others : List (String × String) := []
  deriving DecidableEq, Repr

namespace Settings

open Schema

def isProduction (s : Settings) : Bool := Text.lower s.environment == "production"

/-- A part of the settings. -/
inductive Part where
  | database | log | mapping | whole
  deriving DecidableEq, Repr

def sections : List Part := [.database, .log, .mapping]

namespace Part

def name : Part → String
  | database => "database"
  | log => "logging"
  | mapping => "mapping"
  | whole => ""

/-- What the names of a part's variables begin with, in small letters. -/
def mark : Part → String
  | database => "database_"
  | log => "log_"
  | mapping => "mapping_"
  | whole => ""

def slots : Part → List Slot
  | database =>
    let d : DatabaseSettings := {}
    [{ name := "url", shape := .text none, default := some (.text d.url) },
      { name := "echo", shape := .truth, default := some (.truth d.echo) }]
  | log =>
    let d : LogSettings := {}
    [{ name := "level", shape := .text none, default := some (.text d.level) },
      { name := "json_format", shape := .truth, default := some (.truth d.isJson) },
      { name := "format", shape := .text none, default := some (.text d.format) },
      { name := "file_path", shape := .text none, isNullable := true, default := some .null },
      { name := "max_bytes", shape := .whole, default := some (.whole d.maxBytes) },
      { name := "backup_count", shape := .whole, default := some (.whole d.backupCount) }]
  | mapping =>
    let d : MappingSettings := {}
    [{ name := "error_trail_max_length", shape := .whole, default := some (.whole d.trailLength) },
      { name := "date_format", shape := .text none, default := some (.text d.dateFormat) },
      { name := "time_format", shape := .text none, default := some (.text d.timeFormat) },
      { name := "datetime_format", shape := .text none, default := some (.text d.dateTimeFormat) },
      { name := "decimal_places", shape := .whole, default := some (.whole d.decimalPlaces) },
      { name := "currency_places", shape := .whole, default := some (.whole d.currencyPlaces) },
      { name := "fallback_line_discovery", shape := .truth,
        default := some (.truth d.discoversLines) },
      { name := "line_group_patterns", shape := .texts,
        default := some (.list (d.linePaths.map .text)) },
      { name := "default_namespace_prefix", shape := .text none,
        default := some (.text d.defaultQualifier) },
      { name := "audit_source", shape := .text none, default := some (.text d.auditSource) }]
  | whole =>
    let d : Settings := {}
    [{ name := "app_name", shape := .text none, default := some (.text d.appName) },
      { name := "environment", shape := .text none, default := some (.text d.environment) }]

end Part

/-- Where variables come from. -/
inductive Origin where
  | environment | file
  deriving DecidableEq, Repr

def Origin.name : Origin → String
  | environment => "EnvSettingsSource"
  | file => "DotEnvSettingsSource"

/-- Why there are no settings. -/
inductive Failure where
  | misshapen (part : Part) (violations : List Violation)
  /-- A variable that should hold JSON does not. -/
  | unreadable (name : String) (origin : Origin)
  deriving DecidableEq, Repr

/-- The words for a failure that is not made of violations. -/
def Failure.message : Failure → String
  | misshapen _ _ => ""
  | unreadable name origin =>
    "error parsing value for field \"" ++ name ++ "\" from source \"" ++ origin.name ++ "\""

/-- Variables, their names in small letters; of two of one name the later one counts. -/
abbrev Variables := List (String × Option String)

/-- Variables by their names in small letters. -/
def byLowerName (vars : List (String × Option String)) : Variables :=
  vars.foldl (fun known (name, value) => Dotenv.assign known (Text.lower name) value) []

/-- The JSON that a variable holds; null counts as nothing. -/
def decode (name : String) (origin : Origin) (value : String) : Except Failure (Option Json) :=
  match Json.ofString value with
  | .ok .null => .ok none
  | .ok j => .ok (some j)
  | .error _ => .error (.unreadable name origin)

/-- The value that variables give to a slot. -/
def slotValue (origin : Origin) (vars : Variables) (mark : String) (slot : Slot) :
    Except Failure (Option Json) :=
  match (vars.lookup (mark ++ slot.name)).join, slot.shape with
  | none, _ => .ok none
  | some value, .texts => decode slot.name origin value
  | some value, _ => .ok (some (.text value))

/-- The values that variables give to the slots of a part. -/
def slotValues (origin : Origin) (vars : Variables) (part : Part) :
    Except Failure (List (String × Json)) := do
  let values ← part.slots.mapM fun slot => do
    return (← slotValue origin vars part.mark slot).map fun value => (slot.name, value)
  return values.filterMap id

/-- The members of a section by the names of its slots, in whatever case they are given. -/
def bySlotName (part : Part) (members : List (String × Json)) : List (String × Json) :=
  members.foldl (fun known (name, value) =>
    let lower := Text.lower name
    let name := if part.slots.any (·.name == lower) then lower else name
    Json.withMember known name value) []

/-- The sections that variables give as a whole. -/
def sectionValues (origin : Origin) (vars : Variables) :
    Except Failure (List (String × Json)) := do
  let values ← sections.mapM fun part => do
    match (vars.lookup part.name).join with
    | none => return none
    | some value =>
      return (← decode part.name origin value).map fun j =>
        match j with
        | .object members => (part.name, .object (bySlotName part members))
        | j => (part.name, j)
  return values.filterMap id

mutual

/-- Values with others laid over them; objects are merged member by member. -/
def overlaid (base : List (String × Json)) : List (String × Json) → List (String × Json)
  | [] => base
  | (name, value) :: rest =>
    overlaid (Json.withMember base name (overlay ((base.lookup name).getD .null) value)) rest

/-- A value with another laid over it. -/
def overlay (base : Json) : Json → Json
  | .object members =>
    match base with
    | .object known => .object (overlaid known members)
    | _ => .object members
  | j => j

end

/-- The values of a part, some of which are given beforehand and go before those of variables. -/
def readPart (vars : Variables) (part : Part) (given : List (String × Json)) :
    Except Failure (List (String × Json)) := do
  let values ← slotValues .environment vars part
  match readSlots part.slots (overlaid values given) with
  | .ok values => return values
  | .error vs => throw (.misshapen part vs)

/-- The values of a section, or the violations in what was given for it. Nothing needs to be given;
then violations are those of the section itself. -/
def readSection (vars : Variables) (part : Part) :
    Option Json → Except Failure (Except (List Violation) (List (String × Json)))
  | none => (readPart vars part []).map .ok
  | some (.object members) =>
    match readPart vars part members with
    | .ok values => .ok (.ok values)
    | .error (.misshapen _ vs) => .ok (.error (vs.map (Violation.within part.name)))
    | .error (.unreadable _ _) => .ok (.error [⟨[part.name], .unusable⟩])
  | some _ => .ok (.error [⟨[part.name], .notSection⟩])

def databaseOf (values : List (String × Json)) : DatabaseSettings where
  url := textAt values "url"
  echo := truthAt values "echo"

def logOf (values : List (String × Json)) : LogSettings where
  level := textAt values "level"
  isJson := truthAt values "json_format"
  format := textAt values "format"
  filePath := textAt? values "file_path"
  maxBytes := wholeAt values "max_bytes"
  backupCount := wholeAt values "backup_count"

/-- The settings of the mapping engine with the given values. -/
def mappingOf (values : List (String × Json)) : MappingSettings where
  trailLength := wholeAt values "error_trail_max_length"
  dateFormat := textAt values "date_format"
  timeFormat := textAt values "time_format"
  dateTimeFormat := textAt values "datetime_format"
  decimalPlaces := wholeAt values "decimal_places"
  currencyPlaces := wholeAt values "currency_places"
  discoversLines := truthAt values "fallback_line_discovery"
  linePaths := textsAt values "line_group_patterns"
  defaultQualifier := textAt values "default_namespace_prefix"
  auditSource := textAt values "audit_source"

/-- The variables of a file that are none of the settings. -/
def othersAmong (vars : Variables) : List (String × String) :=
  let known := Part.whole.slots.map Slot.name ++ sections.map Part.name
  vars.filterMap fun (name, value) =>
    match value with
    | none => none
    | some value => if value.isEmpty || known.contains name then none else some (name, value)

/-- The settings by the variables of the environment and, if there is one, of a file. -/
def load (environment : List (String × String)) (file : Option String) :
    Except Failure Settings := do
  let vars := byLowerName (environment.map fun v => (v.1, some v.2))
  let inFile := byLowerName ((file.map (Dotenv.read environment)).getD [])
  let given := (← slotValues .environment vars .whole) ++ (← sectionValues .environment vars)
  let givenInFile := (← slotValues .file inFile .whole) ++ (← sectionValues .file inFile)
  let given := overlaid givenInFile given
  let own := readSlots Part.whole.slots given
  let database ← readSection vars .database (given.lookup Part.database.name)
  let log ← readSection vars .log (given.lookup Part.log.name)
  let mapping ← readSection vars .mapping (given.lookup Part.mapping.name)
  match own, database, log, mapping with
  | .ok own, .ok database, .ok log, .ok mapping =>
    return { appName := textAt own "app_name"
             environment := textAt own "environment"
             database := databaseOf database
             log := logOf log
             mapping := mappingOf mapping
             others := othersAmong inFile }
  | own, database, log, mapping =>
    let violations := [own, database, log, mapping].flatMap fun result =>
      match result with
      | .ok _ => []
      | .error vs => vs
    throw (.misshapen .whole violations)

end Settings

end Intake
