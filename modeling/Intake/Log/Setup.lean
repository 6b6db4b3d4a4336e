import Intake.Log.Event
import Intake.Settings.Basic
import Intake.Text.Letter

/-! How events are logged: from which level on, in which form, and to which files besides the
terminal. A file that would grow too large is put aside first; only so many of these are kept. -/

namespace Intake.Log

/-- A file that events are logged to. -/
structure Journal where
  path : String
  /-- The size that the file stays below; without limit unless it is positive. -/
  maxBytes : Int
  /-- How many files that were put aside are kept. -/
  backups : Int
  deriving DecidableEq, Repr

/-- How events are logged. -/
structure Setup where
  /-- The least level of events that are logged. -/
  rank : Nat
  isJson : Bool
  template : String
  journal : Option Journal
  /-- The least level of events of the database's engine, and of its connections. -/
  engineRank : Nat
  poolRank : Nat
  deriving DecidableEq, Repr

/-- Whether a text begins with a directive that has a name. -/
def startsDirective (s : List Char) : Bool :=
  let number (s : List Char) : List Char :=
    match s with
    | '*' :: rest => rest
    | s => s.dropWhile Text.isDecimalDigit
  match Text.dropStart? "%(".toList s with
  | none => false
  | some s =>
    let (name, rest) := s.span Text.isWordChar
    match name, rest with
    | _ :: _, ')' :: rest =>
      let rest := number (rest.dropWhile fun c => "#0+ -".toList.contains c)
      let letter (s : List Char) : Bool :=
        s.head?.any fun c => "diouxefgcrsa%".toList.contains c.toLower
      match rest with
      | '.' :: after =>
        let behind := number after
        behind.length < after.length && letter behind
      | rest => letter rest
    | _, _ => false

/-- Whether a template has a directive with a name. -/
def isTemplate : List Char → Bool
  | [] => false
  | c :: rest => startsDirective (c :: rest) || isTemplate rest

namespace Setup

/-- Why there is no way to log events. -/
inductive Refusal where
  | unknownLevel (name : String)
  | notTemplate (text : String)
  deriving DecidableEq, Repr

def Refusal.message : Refusal → String
  | unknownLevel name => "module 'logging' has no attribute " ++ Text.quote name
  | notTemplate text => "Invalid format '" ++ text ++ "' for '%' style"

/-- The form of times in texts. -/
def dateFormat : String := "%Y-%m-%d %H:%M:%S"

/-- How events are logged by the settings. -/
def ofSettings (s : Settings) : Except Refusal Setup :=
  let name := Text.upper s.log.level
  match levelRank? name with
  | none => .error (.unknownLevel name)
  | some rank =>
    if !s.log.isJson && !isTemplate s.log.format.toList then .error (.notTemplate s.log.format)
    else .ok {
      rank
      isJson := s.log.isJson
      template := s.log.format
      journal := (s.log.filePath.filter fun p => p != "").map fun p =>
        ⟨p, s.log.maxBytes, s.log.backupCount⟩
      engineRank := if s.database.echo then Level.info.rank else Level.warning.rank
      poolRank := if s.isProduction then Level.warning.rank else 0 }

/-- The text that is logged for an event, if any. -/
def text? (s : Setup) (e : Event) : Option String :=
  if (levelRank? e.level).getD 0 < s.rank then none
  else if s.isJson then some (e.toJson none).print
  else e.text? s.template (some dateFormat)

end Setup

/-- The files of a journal: what is in the present one, and those that were put aside, the latest
first. -/
structure Files where
  current : String := ""
  aside : List String := []
  deriving DecidableEq, Repr

namespace Journal

/-- Puts the present file aside if such files are kept; otherwise it stays. -/
def rollOver (j : Journal) (f : Files) : Files :=
  if 0 < j.backups then ⟨"", (f.current :: f.aside).take j.backups.toNat⟩ else f

/-- Writes a line; a present file that would reach its limit is put aside first. -/
def write (j : Journal) (f : Files) (line : String) : Files :=
  let text := line ++ "\n"
  let size : Int := f.current.utf8ByteSize + text.length
  let f := if 0 < j.maxBytes && j.maxBytes ≤ size then j.rollOver f else f
  { f with current := f.current ++ text }

/-- The path of a file that was put aside; the latest one has the number 0. -/
def asidePath (j : Journal) (i : Nat) : String := j.path ++ "." ++ toString (i + 1)

def names (j : Journal) (f : Files) : List String :=
  (j.path :: f.aside.zipIdx.map fun (_, i) => j.asidePath i).mergeSort fun a b => decide (a ≤ b)

end Journal

end Intake.Log
