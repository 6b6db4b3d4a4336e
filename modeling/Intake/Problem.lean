import Intake.Json.Basic
import Intake.Mapping.Header
import Intake.Record.Fresh
import Intake.Source

/-! Problems as they are reported: a kind, a message, a code for programs, and details. Details that
a caller adds give way to those that a kind has of its own. -/

namespace Intake

/-- What a problem is about. -/
inductive Problem.Kind where
  | general | path | transformation | binding | storage | document | documentKind | configuration
  | database | rejection
  deriving DecidableEq, Repr

namespace Problem.Kind

def name : Problem.Kind → String
  | general => "AppException"
  | path => "PathEvaluationError"
  | transformation => "TransformationError"
  | binding => "FieldBindingError"
  | storage => "PersistenceBoundaryError"
  | document => "DocumentParseError"
  | documentKind => "UnsupportedDocumentTypeError"
  | configuration => "MappingConfigurationError"
  | database => "DatabaseError"
  | rejection => "RecordValidationError"

def code : Problem.Kind → String
  | general => "AppException"
  | path => "PATH_EVALUATION_ERROR"
  | transformation => "TRANSFORMATION_ERROR"
  | binding => "FIELD_BINDING_ERROR"
  | storage => "PERSISTENCE_ERROR"
  | document => "DOCUMENT_PARSE_ERROR"
  | documentKind => "UNSUPPORTED_DOCUMENT_TYPE"
  | configuration => "MAPPING_CONFIGURATION_ERROR"
  | database => "DATABASE_ERROR"
  | rejection => "RECORD_VALIDATION_ERROR"

end Problem.Kind

/-- A problem. -/
structure Problem where
  kind : Problem.Kind
  message : String
  code : String := kind.code
  details : List (String × Json) := []
  deriving Repr

namespace Problem

/-- Details of a kind's own among those that a caller gave. -/
def merged (given own : List (String × Json)) : List (String × Json) :=
  own.foldl (fun members m => Json.withMember members m.1 m.2) given

/-- A text, unless it is missing or empty. -/
def filled? (s : Option String) : Option String := s.filter fun s => !s.isEmpty

/-- A problem of no special kind. -/
def general (message : String) (code : Option String) (details : List (String × Json)) : Problem :=
  { kind := .general, message, code := (filled? code).getD Kind.general.code, details }

/-- A path that cannot be evaluated. -/
def path (path : String) (message cause : Option String) (details : List (String × Json)) :
    Problem where
  kind := .path
  message := (filled? message).getD
    ("Cannot evaluate path '" ++ path ++ "'" ++ (cause.map (": " ++ ·)).getD "")
  details := merged details [("path", .text path)]

/-- A text that cannot be transformed. -/
def transformation (message : String) (raw operation type : Option String)
    (details : List (String × Json)) : Problem where
  kind := .transformation
  message := message
  details := merged details
    [("raw_value", Json.ofText? raw), ("operation", Json.ofText? operation),
      ("target_type", Json.ofText? type)]

/-- A rule that cannot be bound. -/
def binding (field message : String) (rule : Option Rule) (details : List (String × Json)) :
    Problem where
  kind := .binding
  message := message
  details := merged details (("field", .text field) ::
    match rule with
    | some r => [("rule", .text r.name), ("source_path", Json.ofText? r.sourcePath)]
    | none => [])

/-- A store that breaks down. -/
def storage (operation : String) (cause message : Option String) : Problem where
  kind := .storage
  message := (filled? message).getD
    ("Persistence failed during " ++ operation ++ ": " ++ shownText cause)
  details := [("operation", .text operation)]

/-- A document that cannot be read. -/
def document (message : String) (details : List (String × Json)) : Problem :=
  { kind := .document, message, details }

/-- A kind of documents that is not known. -/
def documentKind (tag : Option String) (supported : List String) : Problem where
  kind := .documentKind
  message := "Unsupported document type: " ++ shownText tag ++
    if supported.isEmpty then "" else ". Supported types: " ++ Text.quoteList supported
  details := [("document_type", Json.ofText? tag)]

/-- A configuration that cannot be used. -/
def configuration (message : String) (details : List (String × Json)) : Problem :=
  { kind := .configuration, message, details }

/-- A database that fails. -/
def database (message operation : Option String) (details : List (String × Json)) : Problem where
  kind := .database
  message := message.getD "Database error occurred"
  details := match filled? operation with
    | some o => merged details [("operation", .text o)]
    | none => details

/-- A record that is rejected. -/
def rejection (message : String) (recordType : Option String) : Problem where
  kind := .rejection
  message := message
  details := [("record_type", Json.ofText? recordType)]

def members (p : Problem) : List (String × Json) :=
  [("error", .text p.kind.name), ("message", .text p.message), ("code", .text p.code),
    ("details", .object p.details)]

def shown (p : Problem) : String :=
  p.kind.name ++ "(message='" ++ p.message ++ "', error_code='" ++ p.code ++ "')"

end Problem

def Chain.Refusal.problem (r : Chain.Refusal) : Problem :=
  .transformation r.message (some r.rawText) r.operation r.typeName []

def Query.Refusal.problem (r : Query.Refusal) : Problem := .path r.path (some r.message) none []

def Binding.Refusal.problem (r : Binding.Refusal) : Problem :=
  .binding r.field r.message (some r.rule) []

/-- What is reported of fields that cannot be told apart. -/
def Clash.problem (c : Clash) : Problem := .configuration c.message []

def Source.Refusal.problem (r : Source.Refusal) : Problem := .document r.message []

def Rejection.problem (r : Rejection) : Problem := .rejection r.message r.recordType

/-- What is reported of a tag that stands for no kind of documents. -/
def DocumentKind.unknownTag (tag : Option String) : Problem :=
  .documentKind tag (DocumentKind.all.map DocumentKind.tag)

end Intake
