import Intake.Config.Source
import Intake.Database.Session

/-! Loading a configuration into a database. The feed is the one of its name, and of its owner if
the configuration names one; it is created if there is none. Its rules are replaced, or kept beside
the new ones. Either all of this is committed or nothing. -/

namespace Intake

/-- Why a configuration is not loaded. -/
inductive LoadFailure where
  | config (failure : Config.Failure)
  | database (breakdown : Breakdown)
  deriving DecidableEq, Repr

namespace Database

def loadWork (c : Config) (replace : Bool) : Work (Stored Interface) := do
  let found ← Work.interface? c.interface.name c.interface.clientId
  let id ← match found with
    | some i => pure i.id
    | none => Work.freshId
  let verb := if found.isSome then "Updating" else "Creating"
  Work.note .loading .info (verb ++ " interface " ++ c.interface.name)
  Work.putInterface ⟨id, c.interface⟩
  if replace then Work.removeRules id
  c.rules.forM fun rule => do
    Work.addRule ⟨← Work.freshId, ⟨some id, c.interface.clientId, rule⟩⟩
  Work.commit
  Work.query "interfaces" fun _ => ()
  Work.note .loading .info
    ("Loaded " ++ toString c.rules.length ++ " mapping rules for interface " ++ c.interface.name)
  return ⟨id, c.interface⟩

/-- Reads a configuration and loads it. Nothing is asked of the database before the configuration is
known to be usable. -/
def load (db : Database) (source : Config.Source) (replace : Bool) :
    Logged (Except LoadFailure (Stored Interface) × Database) := do
  match source.read with
  | .error failure => return (.error (.config failure), db)
  | .ok config =>
    match ← db.run (loadWork config replace <* Work.commit) with
    | (.ok interface, db) => return (.ok interface, db)
    | (.error breakdown, db) =>
      match breakdown with
      | .reported text => Logged.note .database .error ("Database session error: " ++ text)
      | .fault _ => pure ()
      return (.error (.database breakdown), db)

end Database

/-- What is reported of a database that breaks down in a session. -/
def sessionProblem (text : String) : Problem :=
  .database (some ("Database operation failed: " ++ text)) none []

end Intake
