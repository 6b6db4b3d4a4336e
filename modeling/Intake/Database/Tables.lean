import Intake.Attempt.Outcome
import Intake.Database.Kept
import Intake.Record.Catalog

/-! The tables of a database: feeds, their rules, records of attempts, headers and lines, each in
the order in which they were first stored. -/

namespace Intake

/-- A rule of a feed. The owner is that of the feed. -/
structure FeedRule where
  interfaceId : Option Nat
  clientId : Option Int
  rule : Rule
  deriving DecidableEq, Repr

/-- The tables of a database. -/
structure Tables where
  interfaces : List (Stored Interface) := []
  rules : List (Stored FeedRule) := []
  outcomes : List Outcome := []
  headers : List Record := []
  lines : List Record := []
  deriving DecidableEq, Repr

namespace Tables

/-- The list with `x` in place of what is the same thing, or else at its end. -/
def put {α : Type} (isSame : α → Bool) (x : α) (xs : List α) : List α :=
  if xs.any isSame then xs.map fun y => if isSame y then x else y else xs ++ [x]

/-- The first feed of a name; with an owner, the first one that is the owner's. -/
def interface? (t : Tables) (name : String) (clientId : Option Int) : Option (Stored Interface) :=
  t.interfaces.find? fun i =>
    i.value.name == name && clientId.all fun c => i.value.clientId == some c

def putInterface (t : Tables) (i : Stored Interface) : Tables :=
  { t with interfaces := put (·.id == i.id) i t.interfaces }

/-- Whether a rule comes before another one: by descending rank, and then by name. -/
def isBefore (a b : Stored FeedRule) : Bool :=
  let x := a.value.rule
  let y := b.value.rule
  y.rank < x.rank || (x.rank == y.rank && decide (x.name ≤ y.name))

/-- Whether a rule is about the records of a table. The rule's own name of the table counts in any
case as far as its letters are ASCII. -/
def isAbout (table : String) (r : Rule) : Bool :=
  r.tableName.map Char.toUpper == Text.upper table

/-- The rules of a feed for the records of a table, in order. -/
def rulesFor (t : Tables) (interfaceId : Option Nat) (table : String) : List (Stored FeedRule) :=
  (t.rules.filter fun r =>
    r.value.interfaceId == interfaceId && isAbout table r.value.rule).mergeSort isBefore

def removeRules (t : Tables) (interfaceId : Nat) : Tables :=
  { t with rules := t.rules.filter fun r => r.value.interfaceId != some interfaceId }

def addRule (t : Tables) (r : Stored FeedRule) : Tables := { t with rules := t.rules ++ [r] }

def outcome? (t : Tables) (id : Nat) : Option Outcome := t.outcomes.find? (·.id == id)

def putOutcome (t : Tables) (o : Outcome) : Tables :=
  { t with outcomes := put (·.id == o.id) o t.outcomes }

def headersOf (t : Tables) (kind : DocumentKind) : List Record :=
  t.headers.filter (·.type == kind.headerType)

def putHeader (t : Tables) (header : Record) : Tables :=
  { t with headers := put (fun h => h.id? == header.id? && h.type == header.type) header t.headers }

def linesOf (t : Tables) (kind : DocumentKind) : List Record :=
  t.lines.filter (·.type == kind.lineType)

def addLine (t : Tables) (line : Record) : Tables := { t with lines := t.lines ++ [line] }

def countLines (t : Tables) (kind : DocumentKind) (headerId : Nat) : Nat :=
  ((t.linesOf kind).filter fun l => l.get? "header_id" == some (.identifier headerId)).length

end Tables

end Intake
