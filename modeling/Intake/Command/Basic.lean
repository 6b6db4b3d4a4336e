import Intake.Command.Grammar
import Intake.Text.Split

/-! The commands of the program: creating the tables of the database, loading a configuration, and
processing a document. The help on a command says how it is used, what it does, and what its arguments
are. The explanations of arguments stand below each other; an argument that is too long for that has a
line of its own. -/

namespace Intake.Command

/-- A switch with what follows it. -/
def Switch.shown (s : Switch) : String :=
  match s.follower with
  | .nothing => s.name
  | _ =>
    let value := (s.name.toList.dropWhile (· == '-')).map fun c => if c = '-' then '_' else c
    s.name ++ " " ++ String.ofList (value.map Char.toUpper)

/-- A switch as it stands in the usage: in brackets unless it is required. -/
def Switch.usage (s : Switch) : String := if s.isRequired then s.shown else "[" ++ s.shown ++ "]"

def Grammar.usage (g : Grammar) (program : String) : String :=
  "usage: " ++ Text.join " "
    (program :: g.switches.map Switch.usage ++ g.places.map Place.name)

/-- The column at which explanations begin: two blanks behind the longest argument, but not beyond
the column 24. -/
def helpColumn (arguments : List (String × String)) : Nat :=
  min 24 (((arguments.map fun a => a.1.length).max?).getD 0 + 4)

def explanation (column : Nat) (argument : String × String) : String :=
  let blanks (n : Nat) : String := String.ofList (List.replicate n ' ')
  let (name, help) := argument
  if name.length + 4 ≤ column then "  " ++ name ++ blanks (column - 2 - name.length) ++ help
  else "  " ++ name ++ "\n" ++ blanks column ++ help

/-- The explanations under a heading, unless there are none. -/
def explanations (column : Nat) (heading : String) : List (String × String) → List String
  | [] => []
  | arguments => [heading ++ "\n" ++ Text.join "\n" (arguments.map (explanation column))]

def Grammar.help (g : Grammar) (program description : String) : String :=
  let places := g.places.map fun p => (p.name, p.help)
  let switches := g.switches.map fun s => (s.shown, s.help)
  let column := helpColumn (places ++ switches)
  Text.join "\n\n" ([g.usage program, description] ++
    explanations column "positional arguments:" places ++
    explanations column "options:" switches)

end Intake.Command

namespace Intake

/-- A command. -/
inductive Command where
  | prepare | load | process
  deriving DecidableEq, Repr

namespace Command

/-- All commands, in the order of their names. -/
def all : List Command := [prepare, load, process]

def name : Command → String
  | prepare => "init_db"
  | load => "load_rules"
  | process => "process"

def description : Command → String
  | prepare => "Create database tables"
  | load => "Load interface mapping rules from a JSON file"
  | process => "Process an XML document for an interface"

def grammar : Command → Grammar
  | prepare => { switches := [{ name := "--drop", help := "Drop existing tables first" }] }
  | load => {
      places := [{ name := "config_file", help := "Path to the mapping configuration JSON" }]
      switches := [{ name := "--append", help := "Keep existing rules of the interface" }] }
  | process => {
      places := [{ name := "file", help := "XML file to process" }]
      switches := [
        { name := "--interface", follower := .text, isRequired := true, help := "Interface name" },
        { name := "--client-id", follower := .whole,
          help := "Client identifier (defaults to the interface client)" }] }

/-- The path of the file that a command reads. -/
def input? (c : Command) (r : Reading) : Option String :=
  match c with
  | prepare => none
  | load => r.word? "config_file"
  | process => r.word? "file"

def ofName? (name : String) : Option Command := all.find? (·.name == name)

/-- The name under which a command is called. -/
def program (c : Command) : String := "manage.py " ++ c.name

def help (c : Command) : String := c.grammar.help c.program c.description

/-- What is shown if the words of a command are not understood. -/
def complaint (c : Command) (complaint : Complaint) : String :=
  c.grammar.usage c.program ++ "\n" ++ c.program ++ ": error: " ++ complaint.message ++ "\n"

/-- The list of all commands. -/
def listing : List String :=
  ["Available commands:", String.ofList (List.replicate 40 '=')] ++ all.map fun c =>
    let filler := String.ofList (List.replicate (20 - c.name.length) ' ')
    "  " ++ c.name ++ filler ++ " " ++ c.description

/-- The help on the program. -/
def overview : List String :=
  ["docmapper CLI Management Tool", "Usage: python manage.py <command> [args...]", ""] ++ listing ++
    ["", "Use 'python manage.py help <command>' for help on a specific command."]

end Command

end Intake
