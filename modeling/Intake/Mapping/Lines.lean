import Intake.Mapping.Header
import Intake.Plan
import Intake.Query.Lines
import Intake.Record.Fresh

/-! Mapping the lines of a document. Each node is tried once, by the first group that finds it. A
line that fails is left out and leaves an entry in the trail, and so does a group whose path cannot
be evaluated. -/

namespace Intake.Mapping

open Xml XPath

/-- What the lines of a document have come to so far. -/
structure Tally where
  trail : Trail
  /-- The identity of the next line to be tried. -/
  nextId : Nat
  nextNumber : Nat := 1
  seen : List Nat := []
  failed : Nat := 0
  discovery : Option Discovery := none
  lines : List Record := []
  deriving DecidableEq, Repr

/-- How far a way of finding lines is from the configuration. -/
def rankOf : Discovery → Nat
  | .configured => 0
  | .pattern => 1
  | .heuristic => 2

/-- The farthest of the ways in which lines were found. -/
def farthest (known found : Option Discovery) : Option Discovery :=
  match known, found with
  | some k, some f => if rankOf k < rankOf f then some f else some k
  | none, found => found
  | known, none => known

/-- What a node has come to. -/
inductive LineResult where
  | bound (line : Record)
  | excluded (entry : String)
  deriving DecidableEq, Repr

/-- The entry about a line rule that failed. -/
def lineEntry (index : Nat) (rule : Rule) (refusal : Binding.Refusal) : String :=
  "Line " ++ toString index ++ " mapping error for " ++ shownText rule.sourcePath ++ ": " ++
    refusal.message

/-- The entry about a line that was rejected. -/
def rejectionEntry (index : Nat) (rejection : Rejection) : String :=
  "Line " ++ toString index ++ " validation error: " ++ rejection.message

/-- The warning about a line that is left out. -/
def noteExcluded (index : Nat) (message : String) : Logged Unit :=
  Logged.note .attempts .warning ("Line " ++ toString index ++ " excluded: " ++ message)

/-- Applies line rules in order, until one fails. -/
def applyLineRules (s : Scene) (n : Node) (parent : String) (index : Nat) (line : Record) :
    List Rule → Logged (Except Binding.Failure LineResult)
  | [] => pure (.ok (.bound line))
  | rule :: rest => do
    match ← applyRule s n line rule (Path.relative rule.sourcePath (some parent)) with
    | .ok line => applyLineRules s n parent index line rest
    | .error (.refused refusal) =>
      noteExcluded index refusal.message
      return .ok (.excluded (lineEntry index rule refusal))
    | .error failure => return .error failure

/-- Maps one line: the rules of its group are applied in order, and then it is checked. -/
def bindLine (s : Scene) (checks : Checks) (n : Node) (group : LineGroup) (index : Nat)
    (line : Record) : Logged (Except Binding.Failure LineResult) := do
  match ← applyLineRules s n group.parent index line group.rules with
  | .ok (.bound line) =>
    match checks.lineFlaw? line with
    | some rejection =>
      noteExcluded index rejection.message
      return .ok (.excluded (rejectionEntry index rejection))
    | none => return .ok (.bound line)
  | result => return result

/-- The tally after a node of its own has been tried. -/
def Tally.after (t : Tally) (node : Nat) : LineResult → Tally
  | .bound line =>
    { t with
      seen := t.seen ++ [node], nextId := t.nextId + 1, nextNumber := t.nextNumber + 1,
      lines := t.lines ++ [line] }
  | .excluded entry =>
    { t with
      seen := t.seen ++ [node], nextId := t.nextId + 1, failed := t.failed + 1,
      trail := t.trail.add entry }

/-- Tries the nodes of a group that no group has tried; `fresh` makes a line by its identity and
number. -/
def bindNodes (s : Scene) (checks : Checks) (fresh : Nat → Nat → Record) (group : LineGroup)
    (index : Nat) (t : Tally) : List Nat → Logged (Except Binding.Failure Unit × Tally)
  | [] => pure (.ok (), t)
  | node :: rest => do
    if t.seen.contains node then
      Logged.note .attempts .debug
        ("Line " ++ toString index ++ " of " ++ group.parent ++ " already bound by another group")
      bindNodes s checks fresh group (index + 1) t rest
    else
      let line := fresh t.nextId t.nextNumber
      match ← bindLine s checks (.row node) group index line with
      | .error failure => return (.error failure, t)
      | .ok result => bindNodes s checks fresh group (index + 1) (t.after node result) rest

/-- Maps the lines of groups, one group after the other. -/
def bindGroups (s : Scene) (checks : Checks) (n : Node) (fresh : Nat → Nat → Record) (t : Tally) :
    List LineGroup → Logged (Except Binding.Failure Unit × Tally)
  | [] => pure (.ok (), t)
  | group :: rest => do
    match ← Query.findLines s.chains.settings s.document s.spaces n group.parent with
    | .error (.fault fault) => return (.error (.fault fault), t)
    | .error (.refused refusal) =>
      Logged.note .attempts .error
        ("Line group " ++ group.parent ++ " skipped: " ++ refusal.message)
      let entry := "Line group " ++ group.parent ++ ": " ++ refusal.message
      bindGroups s checks n fresh { t with trail := t.trail.add entry } rest
    | .ok found =>
      Logged.note .attempts .debug
        ("Line group " ++ group.parent ++ ": " ++ toString found.nodes.length ++ " nodes (" ++
          shownText (found.discovery.map Discovery.fullTag) ++ ")")
      let t := { t with discovery := farthest t.discovery found.discovery }
      match ← bindNodes s checks fresh group 1 t found.nodes with
      | (.error failure, t) => return (.error failure, t)
      | (.ok (), t) => bindGroups s checks n fresh t rest

end Intake.Mapping
