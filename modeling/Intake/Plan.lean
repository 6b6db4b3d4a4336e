import Intake.Fault
import Intake.Log.Basic
import Intake.Rule

/-! The plan by which a document is mapped: the rules for its header, and groups of rules for its
lines. Line rules whose paths have the same parent form a group. Rules that are switched off, or
that do not say where their value stands, take no part; a header rule without a place may have a
default instead. -/

namespace Intake

/-- The rules for the lines at one path. -/
structure LineGroup where
  parent : String
  rules : List Rule
  deriving DecidableEq, Repr

/-- The rules by which a document is mapped, in the order in which they are applied. -/
structure Plan where
  headerRules : List Rule := []
  groups : List LineGroup := []
  deriving DecidableEq, Repr

namespace Plan

/-- The rules by descending rank; rules of one rank keep their order. -/
def byRank (rules : List Rule) : List Rule := rules.mergeSort fun a b => b.rank ≤ a.rank

/-- Why a header rule takes no part. -/
def headerSkip? (r : Rule) : Option String :=
  if !r.isActive then some ("Skipping inactive header rule " ++ r.name)
  else if !r.hasSource && r.defaultValue.isNone then
    some ("Skipping header rule " ++ r.name ++ ": no source path and no default")
  else none

/-- Why a line rule takes no part. -/
def lineSkip? (r : Rule) : Option String :=
  if !r.isActive then some ("Skipping inactive line rule " ++ r.name)
  else if !r.hasSource then some ("Skipping line rule " ++ r.name ++ ": empty source path")
  else if r.parentPath.isEmpty then
    some ("Skipping line rule " ++ r.name ++ ": '" ++ shownText r.sourcePath ++
      "' has no parent path")
  else none

/-- The header rules that take part, in the order in which they are applied. -/
def headerRulesOf (rules : List Rule) : List Rule :=
  byRank (rules.filter fun r => (headerSkip? r).isNone)

/-- Adds a rule at the end of its group; the first rule of a group founds it. -/
def addToGroup (groups : List LineGroup) (r : Rule) : List LineGroup :=
  if groups.any (·.parent == r.parentPath) then
    groups.map fun g => if g.parent = r.parentPath then { g with rules := g.rules ++ [r] } else g
  else groups ++ [⟨r.parentPath, [r]⟩]

/-- The groups of the line rules that take part. -/
def groupsOf (rules : List Rule) : List LineGroup :=
  let groups := (rules.filter fun r => (lineSkip? r).isNone).foldl addToGroup []
  groups.map fun g => { g with rules := byRank g.rules }

/-- The entries about rules that take no part. -/
def noteSkips (skip? : Rule → Option String) : List Rule → Logged Unit
  | [] => pure ()
  | r :: rest => do
    match skip? r with
    | some message => Logged.note .rules .debug message
    | none => pure ()
    noteSkips skip? rest

/-- The plan of a feed's rules for headers and for lines. -/
def ofRules (headerRules lineRules : List Rule) : Logged Plan := do
  noteSkips lineSkip? lineRules
  noteSkips headerSkip? headerRules
  return ⟨headerRulesOf headerRules, groupsOf lineRules⟩

/-- The plan of what a store answers when it is asked for the rules. Rules that it does not answer
with at all are a fault; the line rules are looked at first. -/
def ofAnswers : Option (List Rule) → Option (List Rule) → Logged (Except Fault Plan)
  | _, none => pure (.error (.noItems Json.null.shapeName))
  | none, some lineRules => do
    noteSkips lineSkip? lineRules
    return .error (.noItems Json.null.shapeName)
  | some headerRules, some lineRules => do return .ok (← ofRules headerRules lineRules)

def lineRuleCount (p : Plan) : Nat := (p.groups.flatMap fun g => g.rules).length

end Plan

end Intake
