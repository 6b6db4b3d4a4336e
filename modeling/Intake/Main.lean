import Intake.Database.Written
import Intake.Program
import Std.Time.DateTime.Timestamp

/-! The program as it is run: what it finds around it is read beforehand, and what comes of it is
written. -/

namespace Intake

/-- What an error of the system says about a file. -/
def Disk.refusalOf : IO.Error → Disk.Refusal
  | .inappropriateType _ 21 _ => .isDirectory
  | .inappropriateType _ 20 _ => .notDirectory
  | _ => .missing

/-- What can be read at a path. -/
def Disk.readBytes (path : String) : IO (Except Disk.Refusal (List UInt8)) := do
  match ← (IO.FS.readBinFile path).toBaseIO with
  | .ok content => return .ok content.toList
  | .error e => return .error (Disk.refusalOf e)

/-- The text of the file at a path, if there is one. -/
def Disk.readText? (path : String) : IO (Option String) := do
  match ← Disk.readBytes path with
  | .ok bytes => return String.fromUTF8? ⟨bytes.toArray⟩
  | .error _ => return none

namespace Program

def environment : IO (List (String × String)) := do
  let text := (← Disk.readText? "/proc/self/environ").getD ""
  return (Text.pieces '\x00' text.toList).filterMap fun entry =>
    match entry.span (· != '=') with
    | (name, _ :: value) => some (String.ofList name, String.ofList value)
    | (_, []) => none

/-- The present second. -/
def presentMoment : IO Calendar.DateTime := do
  let now ← Std.Time.Timestamp.now
  return (Calendar.Format.ofUnixSeconds? now.toSecondsSinceUnixEpoch.val).getD default

/-- The database in the file at a path; it is new if there is no such file. -/
def openDatabase (path : String) : IO Database := do
  let outage : Database := { outage := fun _ => some Breakdown.unopenable }
  match ← Disk.readBytes path with
  | .error .missing => return {}
  | .error _ => return outage
  | .ok bytes =>
    let text := String.fromUTF8? ⟨bytes.toArray⟩
    return (text.bind Database.ofText?).getD outage

/-- What the program finds around it if it is run with these words. -/
def surroundings (words : List String) : IO Surroundings := do
  let paths := ".env" :: (inputPath? words).toList
  let contents ← paths.mapM fun path => return (path, ← Disk.readBytes path)
  let around : Surroundings := {
    environment := ← environment
    now := ← presentMoment
    file := fun path => (contents.lookup path).getD (.error .missing)
    database := fun _ => {}
    isTerminal := ← (← IO.getStdout).isTty }
  match databasePath? around with
  | none => return around
  | some path =>
    let database ← openDatabase path
    return { around with database := fun _ => database }

/-- The files of a journal that were put aside, from the `i`-th on, at most `n` of them. -/
def readAside (journal : Log.Journal) (i : Nat) : Nat → IO (List String)
  | 0 => return []
  | n + 1 => do
    match ← Disk.readText? (journal.asidePath i) with
    | some text => return text :: (← readAside journal (i + 1) n)
    | none => return []

/-- Writes lines to the files of a journal. -/
def writeJournal (journal : Log.Journal) (lines : List String) : IO Unit := do
  let current := (← Disk.readText? journal.path).getD ""
  let aside ← readAside journal 0 journal.backups.toNat
  let files := lines.foldl journal.write { current, aside }
  IO.FS.writeFile journal.path files.current
  for (text, i) in files.aside.zipIdx do
    IO.FS.writeFile (journal.asidePath i) text

/-- Writes what came of a run, and gives the code with which the program ends. -/
def deliver (report : Report) : IO UInt32 := do
  for line in report.output do
    IO.println line
  IO.eprint report.complaint
  match report.journal with
  | some (journal, lines) => writeJournal journal lines
  | none => pure ()
  match report.database with
  | some (path, database) =>
    if (database.outage 0).isNone then IO.FS.writeFile path database.text
  | none => pure ()
  match report.ending with
  | .ok code => return code.toUInt32
  | .error escape =>
    IO.eprintln escape.message
    return 1

end Program

end Intake

open Intake

def main (words : List String) : IO UInt32 := do
  Program.deliver (Program.run (← Program.surroundings words) words)
