import Intake.Config.Source
import Intake.Database.Connection
import Intake.Database.Loading
import Intake.Log.Setup

/-! What a command shows on its way and how it may end early. Messages are marked by what they mean,
and entries of the log stand among them. -/

namespace Intake.Command

/-- What a message means. -/
inductive Mark where
  | success | error | warning | info
  deriving DecidableEq, Repr

def Mark.sign : Mark → String
  | success => "✓"
  | error => "✗"
  | warning => "⚠"
  | info => "ℹ"

def Mark.colour : Mark → String
  | success => "92"
  | error => "91"
  | warning => "93"
  | info => "94"

/-- What is shown: a message, a plain line, or an entry of the log. -/
inductive Line where
  | message (mark : Mark) (text : String)
  | plain (text : String)
  | entry (entry : Log.Entry)

/-- A message as it is shown; only terminals have colours. -/
def messageText (isTerminal : Bool) (mark : Mark) (text : String) : String :=
  let marked := mark.sign ++ " " ++ text
  if isTerminal then "\x1b[" ++ mark.colour ++ "m" ++ marked ++ "\x1b[0m" else marked

/-- What nobody is prepared for: it ends the program. -/
inductive Escape where
  /-- The database reports an error. -/
  | reported (text : String)
  | fault (fault : Fault)
  | unreachable (refusal : Address.Refusal)
  | settings (failure : Settings.Failure)
  | log (refusal : Log.Setup.Refusal)
  deriving DecidableEq, Repr

def Escape.message : Escape → String
  | reported text => text
  | fault f => f.message
  | unreachable refusal => refusal.message
  | settings failure => failure.message
  | log refusal => refusal.message

/-- Why a command ends early. -/
inductive Stop where
  | problem (problem : Problem)
  | escape (escape : Escape)

/-- The state of a command: the connection to the database, and what has been shown. -/
structure Console where
  connection : Connection
  lines : List Line := []

/-- A step of a command, which may end it. -/
abbrev Run (α : Type) := ExceptT Stop (StateM Console) α

namespace Run

def say (mark : Mark) (text : String) : Run Unit :=
  modify fun c => { c with lines := c.lines ++ [.message mark text] }

def showLog (log : List Log.Entry) : Run Unit :=
  modify fun c => { c with lines := c.lines ++ log.map .entry }

def use {α : Type} (f : Connection.Use α) : Run α := do
  let done := f (← get).connection
  modify fun c => { c with connection := done.value.2 }
  showLog done.log
  match done.value.1 with
  | .ok a => return a
  | .error (.reported problem) => throw (.problem problem)
  | .error (.unreachable refusal) => throw (.escape (.unreachable refusal))

end Run

end Intake.Command
