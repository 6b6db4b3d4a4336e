import Intake.Command.Run

/-! The program: a command line is read, the settings are put together, and a command is run. -/

namespace Intake

namespace Program

open Command

/-- What the program finds around it: the variables of the environment, the present moment, what can
be read at paths, the databases in files, and whether it writes to a terminal. -/
structure Surroundings where
  environment : List (String × String)
  now : Calendar.DateTime
  file : String → Except Disk.Refusal (List UInt8)
  database : String → Database
  isTerminal : Bool := false

/-- What comes of running the program: how it ends, what it shows, what it complains about, the
lines for the journal, and the database in a file that it worked with. -/
structure Report where
  ending : Except Escape Nat
  output : List String := []
  complaint : String := ""
  journal : Option (Log.Journal × List String) := none
  database : Option (String × Database) := none

def grammar : Grammar where
  places := [{ name := "command", arity := .optional }, { name := "args", arity := .many }]

/-- The command that words name, and the words for it. -/
def split (words : List String) : String × List String :=
  match grammar.read words with
  | .ok r => ((r.word? "command").getD "", r.words "args" ++ r.surplus)
  | .error _ => ("", [])

/-- The file of variables. -/
def variablesFile (around : Surroundings) : Option String :=
  match around.file ".env" with
  | .ok bytes => String.fromUTF8? ⟨bytes.toArray⟩
  | .error _ => none

/-- The event that an entry of the log is about. -/
def event (around : Surroundings) (e : Log.Entry) : Log.Event where
  logger := e.origin.name
  level := e.level.name
  message := e.message
  part := String.ofList (((Text.pieces '.' e.origin.name.toList).getLast?).getD [])
  line := 0
  moment := around.now
  host := ""
  process := 0
  thread := 0
  fields := e.fields

/-- A line as it is logged, if it is. -/
def entryText? (around : Surroundings) (setup : Log.Setup) : Line → Option String
  | .message _ _ | .plain _ => none
  | .entry e => setup.text? (event around e)

/-- A line as it is shown, if it is. -/
def lineText? (around : Surroundings) (setup : Log.Setup) : Line → Option String
  | .message mark text => some (messageText around.isTerminal mark text)
  | .plain text => some text
  | line => entryText? around setup line

/-- The help that is asked for. -/
def help : List String → List String
  | [] => overview
  | name :: _ =>
    match Command.ofName? name with
    | some c => [c.help]
    | none => ["Unknown command: " ++ name]

/-- The database at an address. -/
def databaseAt (around : Surroundings) (s : DatabaseSettings) : Option (String × Database) :=
  match Address.ofSettings s with
  | .ok address => address.path?.map fun path => (path, around.database path)
  | .error _ => none

/-- The path of the file with the database, if the settings name one. -/
def databasePath? (around : Surroundings) : Option String :=
  match Settings.load around.environment (variablesFile around) with
  | .ok settings => (databaseAt around settings.database).map Prod.fst
  | .error _ => none

/-- The file that a command line asks to be read. -/
def inputPath? (words : List String) : Option String := do
  let (name, rest) := split words
  let c ← Command.ofName? name
  let r ← (c.grammar.readAll rest).toOption
  return Disk.plainPath (← c.input? r)

def runCommand (around : Surroundings) (settings : Settings) (setup : Log.Setup) (c : Command)
    (r : Reading) : Report :=
  let found := databaseAt around settings.database
  let console : Console :=
    { connection := { settings := settings.database, database := (found.map Prod.snd).getD {} } }
  let (result, console) :=
    (Command.run ⟨settings, around.now, around.file⟩ c r).run.run console
  { ending := match result with
      | .ok code => .ok code
      | .error (.escape e) => .error e
      | .error (.problem _) => .ok 1
    output := console.lines.filterMap (lineText? around setup)
    journal := setup.journal.map fun j => (j, console.lines.filterMap (entryText? around setup))
    database := found.map fun (path, _) => (path, console.connection.database) }

def runWith (around : Surroundings) (settings : Settings) (setup : Log.Setup)
    (words : List String) : Report :=
  let (name, rest) := split words
  if name = "" || name = "help" then { ending := .ok 0, output := help rest }
  else
    match Command.ofName? name with
    | none =>
      { ending := .ok 1
        output := ["Unknown command: " ++ name,
          "Use 'python manage.py help' to see available commands."] }
    | some c =>
      match c.grammar.readAll rest with
      | .error complaint => { ending := .ok 2, complaint := c.complaint complaint }
      | .ok r => runCommand around settings setup c r

def run (around : Surroundings) (words : List String) : Report :=
  match Settings.load around.environment (variablesFile around) with
  | .error failure => { ending := .error (.settings failure) }
  | .ok settings =>
    match Log.Setup.ofSettings settings with
    | .error refusal => { ending := .error (.log refusal) }
    | .ok setup => runWith around settings setup words

end Program

end Intake
