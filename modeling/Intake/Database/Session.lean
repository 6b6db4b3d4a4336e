import Intake.Database.Tables
import Intake.Log.Basic

/-! Sessions with a database. The statements of a session work on a draft of the tables; what they
have done is kept when the session commits it, and forgotten when the session ends otherwise. The
database may break down at every statement. -/

namespace Intake

/-- Why a statement fails. -/
inductive Breakdown where
  /-- The database reports an error. -/
  | reported (text : String)
  | fault (fault : Fault)
  deriving DecidableEq, Repr

namespace Breakdown

def message : Breakdown → String
  | reported text => text
  | fault f => f.message

/-- The breakdown of a statement about a table that does not exist. -/
def noTable (name : String) : Breakdown :=
  reported ("(sqlite3.OperationalError) no such table: " ++ name)

/-- What the database reports if its file cannot be opened. -/
def unopenable : String := "(sqlite3.OperationalError) unable to open database file"

end Breakdown

/-- A database: its tables, if they have been created, the identity that is given out next, the
number of statements that have been made, and the errors that befall statements, by their
numbers. -/
structure Database where
  tables : Option Tables := none
  nextId : Nat := 1
  count : Nat := 0
  outage : Nat → Option String := fun _ => none

/-- A session: its database, the draft it works on, and the entries it has made. -/
structure Session where
  database : Database
  draft : Option Tables
  log : List Log.Entry := []

/-- What is done in a session. -/
abbrev Work (α : Type) := ExceptT Breakdown (StateM Session) α

namespace Work

def note (origin : Log.Origin) (level : Log.Level) (message : String) : Work Unit :=
  modify fun s => { s with log := s.log ++ [⟨origin, level, message, []⟩] }

/-- Has the database count a statement and suffer what befalls it. -/
def count : Work Unit := do
  let s ← get
  set { s with database := { s.database with count := s.database.count + 1 } }
  match s.database.outage s.database.count with
  | some text => throw (.reported text)
  | none => pure ()

/-- Gives out an identity; it is never given out again, whatever becomes of the session. -/
def freshId : Work Nat := do
  let s ← get
  set { s with database := { s.database with nextId := s.database.nextId + 1 } }
  return s.database.nextId

/-- A statement about a table. -/
def statement {α : Type} (table : String) (f : Tables → Except Fault (α × Tables)) : Work α := do
  count
  match (← get).draft with
  | none => throw (.noTable table)
  | some tables =>
    match f tables with
    | .error fault => throw (.fault fault)
    | .ok (a, tables) =>
      modify fun s => { s with draft := some tables }
      return a

/-- A statement that changes nothing. -/
def query {α : Type} (table : String) (f : Tables → α) : Work α :=
  statement table fun t => .ok (f t, t)

/-- Commits what has been done so far. -/
def commit : Work Unit := do
  count
  modify fun s => { s with database := { s.database with tables := s.draft } }

def interface? (name : String) (clientId : Option Int) : Work (Option (Stored Interface)) :=
  statement "interfaces" fun t => do
    Database.checkRoom clientId
    return (t.interface? name clientId, t)

def putInterface (i : Stored Interface) : Work Unit :=
  statement "interfaces" fun t => do
    Database.checkRoom i.value.clientId
    return ((), t.putInterface i)

/-- The rules of a feed for the records of a table. -/
def rulesFor (interfaceId : Option Nat) (table : String) : Work (List (Stored FeedRule)) :=
  query "mapping_rules" fun t => t.rulesFor interfaceId table

def removeRules (interfaceId : Nat) : Work Unit :=
  statement "mapping_rules" fun t => .ok ((), t.removeRules interfaceId)

def addRule (r : Stored FeedRule) : Work Unit :=
  statement "mapping_rules" fun t => do
    Database.checkRoom r.value.rule.priority
    Database.checkRoom r.value.clientId
    return ((), t.addRule r)

def outcome? (id : Nat) : Work (Option Outcome) :=
  query "processed_files" fun t => t.outcome? id

def putOutcome (o : Outcome) : Work Unit :=
  statement "processed_files" fun t => do
    Database.checkRoom o.clientId
    return ((), t.putOutcome o)

/-- Stores a header, and says what is kept of it. -/
def putHeader (header : Record) : Work Record :=
  statement header.type.table fun t => do
    let kept ← Database.keptRecord header
    return (kept, t.putHeader kept)

def addLine (line : Record) : Work Unit :=
  statement line.type.table fun t => do
    let kept ← Database.keptRecord line
    return ((), t.addLine kept)

end Work

namespace Database

/-- Opens a session, does `work`, and closes the session; what is not committed is forgotten. -/
def run {α : Type} (db : Database) (work : Work α) : Logged (Except Breakdown α × Database) :=
  let (result, s) := work.run.run ⟨db, db.tables, []⟩
  ⟨(result, s.database), s.log⟩

/-- Creates the tables that do not exist. -/
def createTables (db : Database) : Logged (Except Breakdown Unit × Database) :=
  db.run do
    modify fun s => { s with draft := some (s.draft.getD {}) }
    Work.commit

def dropTables (db : Database) : Logged (Except Breakdown Unit × Database) :=
  db.run do
    modify fun s => { s with draft := none }
    Work.commit

end Database

end Intake
