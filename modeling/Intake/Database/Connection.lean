import Intake.Database.Address
import Intake.Database.Repository

/-! The connection between the program and its database. It is opened when it is first needed. -/

namespace Intake

/-- A connection: where its database is, whether it has been opened, and the database. -/
structure Connection where
  settings : DatabaseSettings := {}
  isOpen : Bool := false
  database : Database := {}

namespace Connection

/-- Why something cannot be done through a connection. -/
inductive Failure where
  | reported (problem : Problem)
  /-- The address leads to no database, and nobody is prepared for it. -/
  | unreachable (refusal : Address.Refusal)
  deriving Repr

/-- What is done through a connection, and the connection afterwards. -/
abbrev Use (α : Type) := Connection → Logged (Except Failure α × Connection)

/-- Opens the connection, unless it is open. -/
def openUp : Use Address := fun c => do
  match Address.ofSettings c.settings with
  | .error refusal =>
    match refusal.problem? with
    | none => return (.error (.unreachable refusal), c)
    | some problem =>
      Logged.note .database .error ("Failed to create database engine: " ++ refusal.message)
      return (.error (.reported problem), c)
  | .ok address =>
    if !c.isOpen then
      Logged.note .database .info ("Database engine created: " ++ address.text true)
    return (.ok address, { c with isOpen := true })

/-- Works with the database behind the connection. -/
def withDatabase {ε α : Type} (work : Database → Logged (Except ε α × Database)) :
    Use (Except ε α) := fun c => do
  match ← openUp c with
  | (.error failure, c) => return (.error failure, c)
  | (.ok _, c) =>
    let (result, database) ← work c.database
    return (.ok result, { c with database })

/-- Changes the tables; `done` names what is done to them, and `operation` is its name in reports.
-/
def changeTables (done operation : String)
    (work : Database → Logged (Except Breakdown Unit × Database)) : Use Unit := fun c => do
  match ← withDatabase work c with
  | (.error failure, c) => return (.error failure, c)
  | (.ok (.ok ()), c) => return (.ok (), c)
  | (.ok (.error breakdown), c) =>
    Logged.note .database .error
      ("Failed to " ++ done ++ " database tables: " ++ breakdown.message)
    let message := "Database table " ++ operation ++ " failed: " ++ breakdown.message
    return (.error (.reported (.database (some message) (some (done ++ "_tables")) [])), c)

def createTables : Use Unit := fun c => do
  Logged.note .database .info "Creating database tables..."
  let (result, c) ← changeTables "create" "creation" Database.createTables c
  match result with
  | .ok () => Logged.note .database .info "Database tables created successfully"
  | .error _ => pure ()
  return (result, c)

def dropTables : Use Unit := fun c => do
  Logged.note .database .warning "Dropping all database tables..."
  changeTables "drop" "drop" Database.dropTables c

/-- Whether the database answers. -/
def isHealthy : Use Bool := fun c => do
  match ← withDatabase (fun db => db.run Work.count) c with
  | (.error failure, c) => return (.error failure, c)
  | (.ok (.ok ()), c) => return (.ok true, c)
  | (.ok (.error breakdown), c) =>
    Logged.note .database .error ("Database health check failed: " ++ breakdown.message)
    return (.ok false, c)

/-- Closes the connection. A database in memory is lost. -/
def close (c : Connection) : Connection :=
  let isKept := match Address.ofSettings c.settings with
    | .ok address => address.path?.isSome
    | .error _ => true
  { c with
    isOpen := false
    database := if isKept then c.database else { c.database with tables := none } }

end Connection

end Intake
