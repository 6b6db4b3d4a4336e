import Intake.Binding.Basic
import Intake.Record.Basic
import Intake.Trail

/-! Mapping the header of a document. An optional rule that fails leaves an entry in the trail; the
first required rule that fails ends the mapping. Records are checked when their rules have been
bound. -/

namespace Intake

/-- Why a record is rejected. -/
structure Rejection where
  message : String
  recordType : Option String := none
  deriving DecidableEq, Repr

/-- Checks that a caller adds to those that are always made. -/
structure Checks where
  header : Record → Option Rejection := fun _ => none
  line : Record → Option Rejection := fun _ => none

/-- What is wrong with a line: it has no header, or its quantity is negative. -/
def lineFlaw? (line : Record) : Option Rejection :=
  if (line.get? "header_id").isNone then some ⟨"Line has no header", some line.type.name⟩
  else
    match line.get? "quantity" with
    | some (.whole n) =>
      if n < 0 then some ⟨"Negative quantity " ++ toString n, some line.type.name⟩ else none
    | _ => none

/-- What is wrong with a line, the caller's checks coming last. -/
def Checks.lineFlaw? (checks : Checks) (line : Record) : Option Rejection :=
  (Intake.lineFlaw? line).or (checks.line line)

end Intake

namespace Intake.Mapping

open Xml XPath

/-- What rules are applied with: the context of their chains, the document, and the namespaces that
their paths may mention. -/
structure Scene where
  chains : Chain.Context
  document : Document
  spaces : Spaces

/-- The text that a rule finds at a path from a node; nothing is looked for at an empty path. -/
def rawText (s : Scene) (n : Node) (record : Record) (rule : Rule) (path : String) :
    Logged (Except Binding.Failure (Option String)) := do
  if path.isEmpty then return .ok none
  match ← Query.text s.document s.spaces n path with
  | .ok raw => return .ok raw
  | .error (.refused refusal) =>
    return .error (.refused ⟨record.type.name, rule.targetField, rule, .unreachable refusal⟩)
  | .error (.fault fault) => return .error (.fault fault)

/-- Applies a rule to a record; its value stands at a path from a node. -/
def applyRule (s : Scene) (n : Node) (record : Record) (rule : Rule) (path : String) :
    Logged (Except Binding.Failure Record) := do
  match ← rawText s n record rule path with
  | .error failure => return .error failure
  | .ok raw =>
    match ← Binding.bind s.chains record rule raw with
    | .error failure => return .error failure
    | .ok bound => return .ok (bound.getD record)

/-- The entry about an optional header rule that failed. -/
def headerEntry (rule : Rule) (refusal : Binding.Refusal) : String :=
  "Header mapping error for " ++ shownText rule.sourcePath ++ ": " ++ refusal.message

/-- Applies header rules in order. The trail comes back also if the mapping ends early. -/
def applyHeaderRules (s : Scene) (n : Node) (trail : Trail) (header : Record) :
    List Rule → Logged (Except Binding.Failure Record × Trail)
  | [] => pure (.ok header, trail)
  | rule :: rest => do
    match ← applyRule s n header rule (rule.sourcePath.getD "") with
    | .ok header => applyHeaderRules s n trail header rest
    | .error (.refused refusal) =>
      if rule.isRequired then
        Logged.note .attempts .error
          ("Required header field failed, aborting document: " ++ refusal.message)
        return (.error (.refused refusal), trail)
      else
        Logged.note .attempts .warning ("Header field skipped: " ++ refusal.message)
        applyHeaderRules s n (trail.add (headerEntry rule refusal)) header rest
    | .error failure => return (.error failure, trail)

/-- Why there is no header. -/
inductive HeaderFailure where
  | binding (failure : Binding.Failure)
  | rejected (rejection : Rejection)
  deriving DecidableEq, Repr

/-- Maps a header: its rules are applied in order, and then it is checked. -/
def bindHeader (s : Scene) (checks : Checks) (n : Node) (trail : Trail) (header : Record)
    (rules : List Rule) : Logged (Except HeaderFailure Record × Trail) := do
  match ← applyHeaderRules s n trail header rules with
  | (.error failure, trail) => return (.error (.binding failure), trail)
  | (.ok header, trail) =>
    match checks.header header with
    | some rejection => return (.error (.rejected rejection), trail)
    | none => return (.ok header, trail)

end Intake.Mapping
