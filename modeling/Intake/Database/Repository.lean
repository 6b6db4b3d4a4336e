import Intake.Database.Session
import Intake.Service

/-! The store of attempts that is a database. Every call has a session of its own. -/

namespace Intake.Database

/-- What is reported of a call in which the database reports an error. -/
def callProblem (call : Call) (text : String) : Problem :=
  .database (some (call.name ++ " failed: " ++ text)) (some call.name) []

/-- The work of a call in a session of its own. -/
def serve {α : Type} (call : Call) (work : Work α) (db : Database) :
    Logged (Except String α × Database) := do
  match ← db.run work with
  | (.ok a, db) => return (.ok a, db)
  | (.error (.reported text), db) =>
    let problem := callProblem call text
    Logged.note .storage .error problem.message
    return (.error problem.message, db)
  | (.error (.fault fault), db) => return (.error fault.message, db)

/-- Records an attempt, and reads what is kept of it. -/
def recordWork (o : Outcome) : Work (Option Outcome) := do
  let _ ← Work.outcome? o.id
  Work.putOutcome o
  Work.commit
  Work.outcome? o.id

/-- Stores a header, and reads what is kept of it. -/
def headerWork (header : Record) : Work (Option Record) := do
  Work.query header.type.table fun _ => ()
  let kept ← Work.putHeader header
  Work.commit
  Work.query header.type.table fun _ => some kept

/-- Stores lines, all or none of them. -/
def linesWork (lines : List Record) : Work Unit := do
  lines.forM Work.addLine
  Work.commit
  Work.note .storage .debug ("Persisted " ++ toString lines.length ++ " lines")

/-- Reads the rules of a feed for the records of a table. -/
def rulesWork (interfaceId : Option Nat) (table : String) : Work (List Rule) := do
  return (← Work.rulesFor interfaceId table).map fun r => r.value.rule

/-- The store that is a database. -/
def repository : Repository Database where
  record o := serve .record (recordWork o)
  rules interfaceId table := serve .rules (do return some (← rulesWork interfaceId table))
  saveHeader header := serve .saveHeader (headerWork header)
  saveLines lines := serve .saveLines (linesWork lines)

/-- Processes a document as it arrives, with the database as the store. -/
def process (s : MappingSettings) (now : Calendar.DateTime) (d : Service.Delivery)
    (db : Database) : Service.Reply Database :=
  let reply := Service.process repository s now d db db.nextId
  { reply with store := { reply.store with nextId := reply.nextId } }

end Intake.Database
