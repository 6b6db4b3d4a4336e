import Intake.Attempt.Process
import Intake.Json.Printer
import Intake.Problem

/-! The service that takes documents in: it finds out of which kind a document is and has it
processed. Every document ends up in the record of an attempt, also one that cannot be read or is of
no known kind. -/

namespace Intake.Service

variable {σ : Type}

def name : String := "document_processing"

/-- A document as it arrives. -/
structure Delivery where
  source : Source
  interface : Option (Stored Interface) := none
  clientId : Option Int := none
  fileName : Option String := none

namespace Delivery

/-- The owner of what comes of the document: the one it is delivered for or else its feed's. -/
def owner (d : Delivery) : Option Int := d.clientId <|> d.interface.bind (·.value.clientId)

/-- The name of the file that the document came in, if it is known. -/
def knownFileName (d : Delivery) : Option String :=
  match d.fileName, d.source with
  | some name, _ => some name
  | none, .file path _ => some (Source.fileName path)
  | none, .bytes _ => none

end Delivery

/-- The tag of the kind of a document: that of its feed, or else the name of its outermost
element. -/
def kindTagOf (d : Xml.Document) (interface : Option (Stored Interface)) : String :=
  match interface with
  | some i =>
    if i.value.kindTag.isEmpty then Text.upper (d.localName d.root)
    else Text.upper (Text.trim i.value.kindTag)
  | none => Text.upper (d.localName d.root)

/-- What the service answers: the record of the attempt, the stages it went through, the store, the
identity that is given out next, and the log. -/
structure Reply (σ : Type) where
  outcome : Outcome
  stages : List Stage := []
  store : σ
  nextId : Nat
  log : List Log.Entry

/-- The entry about an operation of the service. -/
def operationEntry (operation : String) (details : List (String × Json)) : Log.Entry :=
  let more :=
    if details.isEmpty then "" else " - Details: " ++ (Json.object details).shown
  { origin := .service, level := .info, message := "Service operation: " ++ operation ++ more }

/-- Records a document that no attempt could be made at. -/
def recordFailure (repo : Repository σ) (s : MappingSettings) (now : Calendar.DateTime)
    (d : Delivery) (kindTag : Option String) (message : String) (store : σ) (nextId : Nat)
    (log : List Log.Entry) : Reply σ :=
  let outcome : Outcome :=
    { id := nextId
      createdAt := now
      fileName := d.knownFileName
      kindTag
      status := .error
      message := some (truncated message s.trailLength)
      interfaceId := d.interface.map Stored.id
      clientId := d.owner
      processedAt := some now }
  let call := repo.record outcome store
  let log := log ++ call.log
  match call.value with
  | (.ok recorded, store) =>
    { outcome := recorded.getD outcome, store, nextId := nextId + 1, log }
  | (.error reason, store) =>
    let message := message ++ Trail.separator ++ Call.record.failure reason
    { outcome := { outcome with message := some (truncated message s.trailLength) }
      store
      nextId := nextId + 1
      log := log ++
        [⟨.service, .error, "Could not record processing result: " ++ reason, []⟩] }

/-- Processes a document that has been read. -/
def processDocument (repo : Repository σ) (s : MappingSettings) (now : Calendar.DateTime)
    (d : Delivery) (document : Xml.Document) (store : σ) (nextId : Nat) (log : List Log.Entry) :
    Reply σ :=
  let kindTag := kindTagOf document d.interface
  let log := log ++ [operationEntry "process_document"
    [("document_type", .text kindTag),
      ("interface", Json.ofText? (d.interface.map fun i => i.value.name)),
      ("file_name", Json.ofText? d.knownFileName)]]
  match DocumentKind.ofTag? kindTag with
  | none =>
    let message := (DocumentKind.unknownTag (some kindTag)).message
    recordFailure repo s now d (some kindTag) message store nextId
      (log ++ [⟨.service, .error, message, []⟩])
  | some kind =>
    let a := Attempt.run repo
      { kind, settings := s, now, document, interface := d.interface, clientId := d.owner,
        fileName := d.knownFileName } store nextId log
    { outcome := a.outcome, stages := a.past ++ [a.stage], store := a.store, nextId := a.nextId,
      log := a.log }

/-- Processes a document as it arrives. -/
def process (repo : Repository σ) (s : MappingSettings) (now : Calendar.DateTime) (d : Delivery)
    (store : σ) (nextId : Nat) : Reply σ :=
  let read := d.source.read
  match read.value with
  | .error refusal =>
    let label := match d.knownFileName with
      | some name => if name.isEmpty then "document" else name
      | none => "document"
    recordFailure repo s now d (d.interface.map fun i => i.value.kindTag) refusal.message store
      nextId (read.log ++
        [⟨.service, .error, "Cannot parse " ++ label ++ ": " ++ refusal.message, []⟩])
  | .ok document => processDocument repo s now d document store nextId read.log

end Intake.Service
