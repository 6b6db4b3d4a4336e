import Intake.Attempt.Outcome
import Intake.Mapping.Lines

/-! An attempt to process a document: the stages it goes through, the state it carries, and the
reasons for which it is given up. -/

namespace Intake

/-- How far an attempt has come. -/
inductive Stage where
  | started | headerBound | headerSaved | linesBound | linesSaved | failed
  deriving DecidableEq, Repr

def Stage.tag : Stage → String
  | started => "STARTED"
  | headerBound => "HEADER_BOUND"
  | headerSaved => "HEADER_PERSISTED"
  | linesBound => "LINES_BOUND"
  | linesSaved => "LINES_PERSISTED"
  | failed => "ERROR"

/-- A call of the store. -/
inductive Call where
  | record | rules | saveHeader | saveLines
  deriving DecidableEq, Repr

def Call.name : Call → String
  | record => "record_processing_result"
  | rules => "resolve_mapping_rules"
  | saveHeader => "persist_header"
  | saveLines => "persist_lines"

def Call.failure (call : Call) (reason : String) : String :=
  "Persistence failed during " ++ call.name ++ ": " ++ reason

/-- Why an attempt is given up. -/
inductive Abort where
  | store (call : Call) (reason : String)
  | noIdentity
  | header (refusal : Binding.Refusal)
  | clash (clash : Clash)
  | rejected (rejection : Rejection)
  | noLines (failed : Nat)
  | fault (fault : Fault)
  deriving DecidableEq, Repr

namespace Abort

def message : Abort → String
  | store call reason => call.failure reason
  | noIdentity => "Header was not assigned an identity"
  | header refusal => refusal.message
  | clash c => c.message
  | rejected rejection => rejection.message
  | noLines failed => "No lines could be mapped: " ++ toString failed ++ " lines failed"
  | fault f => "Unexpected error: " ++ f.message

/-- The abort that a failure to bind a rule leads to. -/
def ofBinding : Binding.Failure → Abort
  | .refused refusal => header refusal
  | .clash c => clash c
  | .fault f => fault f

/-- The abort that a failure to map the header leads to. -/
def ofHeader : Mapping.HeaderFailure → Abort
  | .binding failure => ofBinding failure
  | .rejected rejection => rejected rejection

end Abort

/-- What an attempt is told beforehand. -/
structure Task where
  kind : DocumentKind
  settings : MappingSettings
  now : Calendar.DateTime
  document : Xml.Document
  interface : Option (Stored Interface) := none
  clientId : Option Int := none
  fileName : Option String := none
  checks : Checks := {}

namespace Task

def interfaceId (t : Task) : Option Nat := t.interface.map Stored.id

/-- What the rules of the task are applied with. -/
def scene (t : Task) : Mapping.Scene where
  chains := ⟨t.settings, t.now.date⟩
  document := t.document
  spaces := Query.spacesOf t.settings.defaultQualifier t.document

/-- The node from which paths start. -/
def start (t : Task) : XPath.Node := .row t.document.root

/-- The fields that entries about the task carry. -/
def logFields (t : Task) : List (String × Json) :=
  [("document_type", .text t.kind.tag), ("client_id", Json.ofWhole? t.clientId)]

/-- The record of the attempt before anything has happened. -/
def outcome (t : Task) (id : Nat) : Outcome where
  id := id
  createdAt := t.now
  fileName := t.fileName
  kindTag := some t.kind.tag
  interfaceId := t.interfaceId
  clientId := t.clientId

end Task

/-- The state of an attempt: its record, its trail, the stages that lie behind it, its present
stage, how its lines were found, the store, the identity that is given out next, and the log. -/
structure Attempt (σ : Type) where
  outcome : Outcome
  trail : Trail
  past : List Stage := []
  stage : Stage := .started
  discovery : Option Discovery := none
  store : σ
  nextId : Nat
  log : List Log.Entry := []

/-- A step of an attempt, which may end it. -/
abbrev Step (σ α : Type) := ExceptT Abort (StateM (Attempt σ)) α

end Intake
