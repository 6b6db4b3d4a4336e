import Intake.Log.Basic
import Intake.Record.Basic
import Intake.Rule

/-! The record of an attempt to process a document, and the store that such records, headers and
lines go to. A store may break down at every call. -/

namespace Intake

/-- How an attempt stands. -/
inductive Status where
  | processing | success | error
  deriving DecidableEq, Repr

def Status.all : List Status := [processing, success, error]

def Status.tag : Status → String
  | processing => "PROCESSING"
  | success => "SUCCESS"
  | error => "ERROR"

/-- Whether an attempt that stands so has come to its end. -/
def Status.isFinal (s : Status) : Bool := s != processing

/-- Something that is stored under an identity. -/
structure Stored (α : Type) where
  id : Nat
  value : α
  deriving DecidableEq, Repr

/-- The record of an attempt to process a document. -/
structure Outcome where
  id : Nat
  createdAt : Calendar.DateTime
  fileName : Option String := none
  /-- The tag of the kind of the document. -/
  kindTag : Option String := none
  status : Status := .processing
  message : Option String := none
  interfaceId : Option Nat := none
  clientId : Option Int := none
  headerId : Option Nat := none
  lineCount : Nat := 0
  discovery : Option Discovery := none
  processedAt : Option Calendar.DateTime := none
  deriving DecidableEq, Repr

/-- The calls of a store whose states are of type `σ`. A call may make entries in the log, and one
that breaks down says why. -/
structure Repository (σ : Type) where
  /-- Keeps the record of an attempt, in place of what was kept about that attempt before. -/
  record : Outcome → σ → Logged (Except String (Option Outcome) × σ)
  /-- The rules of a feed for the records that go into a table; the store may not answer. -/
  rules : Option Nat → String → σ → Logged (Except String (Option (List Rule)) × σ)
  /-- Keeps a header. -/
  saveHeader : Record → σ → Logged (Except String (Option Record) × σ)
  /-- Keeps lines. -/
  saveLines : List Record → σ → Logged (Except String Unit × σ)

end Intake
