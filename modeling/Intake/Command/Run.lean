import Intake.Command.Basic
import Intake.Command.Console

/-! What the commands do. -/

namespace Intake.Command

/-- What a command finds around it: the settings, the present moment, and what can be read at
paths. -/
structure Surroundings where
  settings : Settings
  now : Calendar.DateTime
  file : String → Except Disk.Refusal (List UInt8)

/-- Creates the tables of the database, and drops existing ones first if that is asked for. -/
def runPrepare (drops : Bool) : Run Nat := do
  let address ← Run.use Connection.openUp
  Run.say .info ("Database: " ++ address.text true)
  if drops then
    Run.say .warning "Dropping existing tables..."
    Run.use Connection.dropTables
  Run.use Connection.createTables
  if ← Run.use Connection.isHealthy then
    Run.say .success "Database tables ready"
    return 0
  else
    Run.say .error "Database health check failed"
    return 1

/-- The configuration in a file. -/
def configAt (around : Surroundings) (path : String) : Config.Source :=
  .file path <| match around.file path with
    | .error refusal => .error (refusal.message path)
    | .ok bytes =>
      match String.fromUTF8? ⟨bytes.toArray⟩ with
      | some text => .ok text
      | none => .error "not a text"

/-- Loads the configuration in a file; the rules of its feed are replaced unless they are to be
kept. -/
def runLoad (around : Surroundings) (file : String) (keeps : Bool) : Run Nat := do
  Run.use Connection.createTables
  let source := configAt around (Disk.plainPath file)
  match ← Run.use (Connection.withDatabase fun db => db.load source !keeps) with
  | .ok interface =>
    Run.say .success ("Mapping rules loaded for interface '" ++ interface.value.name ++ "'")
    return 0
  | .error (.config (.refused refusal)) => throw (.problem refusal.problem)
  | .error (.config (.fault fault)) => throw (.escape (.fault fault))
  | .error (.database (.reported text)) => throw (.problem (sessionProblem text))
  | .error (.database (.fault fault)) => throw (.escape (.fault fault))

/-- Shows what came of an attempt. -/
def report (name : String) (o : Outcome) : Run Nat := do
  if o.status = .success then
    Run.say .success
      (name ++ ": " ++ toString o.lineCount ++ " lines, header " ++
        shownText (o.headerId.map identifierText))
    match o.discovery with
    | none | some .configured => pure ()
    | some discovery =>
      Run.say .warning ("Line nodes found by " ++ discovery.tag ++ " fallback")
    match Problem.filled? o.message with
    | some message => Run.say .warning message
    | none => pure ()
    return 0
  else
    Run.say .error (name ++ ": " ++ shownText o.message)
    return 1

/-- Processes the document in a file for a feed. -/
def runProcess (around : Surroundings) (file interface : String) (clientId : Option Int) :
    Run Nat := do
  let path := Disk.plainPath file
  let content := around.file path
  match content with
  | .error .missing | .error .notDirectory =>
    Run.say .error ("File not found: " ++ path)
    return 1
  | _ =>
    match ← Run.use (Connection.withDatabase fun db =>
        db.run (Work.interface? interface clientId)) with
    | .error (.reported text) => throw (.escape (.reported text))
    | .error (.fault fault) => throw (.escape (.fault fault))
    | .ok none =>
      Run.say .error ("Unknown interface: " ++ interface)
      return 1
    | .ok (some feed) =>
      let console ← get
      let reply := Database.process around.settings.mapping around.now
        { source := .file path content.toOption, interface := some feed, clientId }
        console.connection.database
      modify fun c => { c with connection := { c.connection with database := reply.store } }
      Run.showLog reply.log
      report (Source.fileName path) reply.outcome

/-- Does what a command does with what its words say. -/
def perform (around : Surroundings) (c : Command) (r : Reading) : Run Nat :=
  match c with
  | prepare => runPrepare (r.has "--drop")
  | load => runLoad around ((c.input? r).getD "") (r.has "--append")
  | process =>
    runProcess around ((c.input? r).getD "") ((r.switches.lookup "--interface").getD "")
      (r.whole? "--client-id")

/-- Reports a problem that ends a command. -/
def reportProblem (c : Command) (p : Problem) : Run Nat := do
  let fields := Problem.merged [("command", .text c.name), ("error_code", .text p.code)] p.details
  Run.showLog [⟨.commands, .error, "Command " ++ c.name ++ " failed: " ++ p.message, fields⟩]
  Run.say .error p.message
  return 1

/-- Runs a command. Problems are reported. -/
def run (around : Surroundings) (c : Command) (r : Reading) : Run Nat :=
  tryCatch (perform around c r) fun stop =>
    match stop with
    | .problem p => reportProblem c p
    | .escape e => throw (.escape e)

end Intake.Command
